import Mathlib.Algebra.Order.Group.Multiset
import MediasoupClientSwift.Api.Frames

/-!
Owns the ledger. Any library can be run with a ledger of the transports and
children it makes and deletes; the ledger is an object book of that library.
-/

namespace MediasoupClientSwift

/-- The objects made for this program and those it deleted, each as often as it was. -/
structure Ledger where
  made : Multiset Handle
  deleted : Multiset Handle

namespace Ledger

def empty : Ledger where
  made := 0
  deleted := 0

def noteMade (object : Handle) (ledger : Ledger) : Ledger :=
  { ledger with made := ledger.made + {object} }

def noteDeleted (object : Handle) (ledger : Ledger) : Ledger :=
  { ledger with deleted := ledger.deleted + {object} }

variable {World α : Type}

def beside (call : NativeCall World α) : NativeCall (World × Ledger) α := fun world =>
  ((call world.1).1, (call world.1).2, world.2)

/-- A native factory, whose object is noted where it returns one. -/
def making (call : NativeCall World Handle) : NativeCall (World × Ledger) Handle := fun world =>
  match call world.1 with
  | (.ok object, native) => (.ok object, native, world.2.noteMade object)
  | (.error raised, native) => (.error raised, native, world.2)

private theorem makes_making (call : NativeCall World Handle) :
    Makes Prod.snd noteMade (making call) := by
  intro world
  unfold making
  rcases call world.1 with ⟨result, native⟩
  cases result <;> rfl

end Ledger

open Ledger in
def NativeLibrary.withLedger {World : Type} (library : NativeLibrary World) :
    NativeLibrary (World × Ledger) where
  parse := library.parse
  nativeTransportsType := library.nativeTransportsType
  dump := library.dump
  newDevice world := ((library.newDevice world.1).1, (library.newDevice world.1).2, world.2)
  deleteDevice device world := (library.deleteDevice device world.1, world.2)
  isLoaded device world := library.isLoaded device world.1
  load device json options := beside (library.load device json options)
  getSctpCapabilities device := beside (library.getSctpCapabilities device)
  getRtpCapabilities device := beside (library.getRtpCapabilities device)
  canProduce device kind := beside (library.canProduce device kind)
  createSendTransport device listener arguments :=
    making (library.createSendTransport device listener arguments)
  createRecvTransport device listener arguments :=
    making (library.createRecvTransport device listener arguments)
  getId object world := library.getId object world.1
  getLocalId object world := library.getLocalId object world.1
  getProducerId object world := library.getProducerId object world.1
  getConnectionState object world := library.getConnectionState object world.1
  getLabel object world := library.getLabel object world.1
  getProtocol object world := library.getProtocol object world.1
  isClosed object world := library.isClosed object world.1
  isPaused object world := library.isPaused object world.1
  getMaxSpatialLayer object world := library.getMaxSpatialLayer object world.1
  getReadyState object world := library.getReadyState object world.1
  getBufferedAmount object world := library.getBufferedAmount object world.1
  getTrack object world := library.getTrack object world.1
  getAppData object world := library.getAppData object world.1
  getRtpParameters object world := library.getRtpParameters object world.1
  getSctpStreamParameters object world := library.getSctpStreamParameters object world.1
  getStats object := beside (library.getStats object)
  close object world := (library.close object world.1, world.2)
  pause object world := (library.pause object world.1, world.2)
  resume object world := (library.resume object world.1, world.2)
  delete object world := (library.delete object world.1, world.2.noteDeleted object)
  restartIce transport json := beside (library.restartIce transport json)
  updateIceServers transport json := beside (library.updateIceServers transport json)
  produce transport listener arguments := making (library.produce transport listener arguments)
  produceData transport listener arguments :=
    making (library.produceData transport listener arguments)
  consume transport listener arguments := making (library.consume transport listener arguments)
  consumeData transport listener arguments :=
    making (library.consumeData transport listener arguments)
  setMaxSpatialLayer producer layer := beside (library.setMaxSpatialLayer producer layer)
  replaceTrack producer track := beside (library.replaceTrack producer track)
  getRtpSender producer world := library.getRtpSender producer world.1
  getParameters sender world :=
    ((library.getParameters sender world.1).1, (library.getParameters sender world.1).2, world.2)
  setParameters sender parameters world :=
    ((library.setParameters sender parameters world.1).1,
      (library.setParameters sender parameters world.1).2, world.2)

open Ledger in
def NativeLibrary.ledger {World : Type} (library : NativeLibrary World) :
    ObjectBook library.withLedger Ledger where
  book := Prod.snd
  made := noteMade
  deleted := noteDeleted
  newDevice _ := rfl
  deleteDevice _ _ := rfl
  load _ _ _ _ := rfl
  getSctpCapabilities _ _ := rfl
  getRtpCapabilities _ _ := rfl
  canProduce _ _ _ := rfl
  createSendTransport _ _ _ := makes_making _
  createRecvTransport _ _ _ := makes_making _
  getStats _ _ := rfl
  close _ _ := rfl
  pause _ _ := rfl
  resume _ _ := rfl
  delete _ _ := rfl
  restartIce _ _ _ := rfl
  updateIceServers _ _ _ := rfl
  produce _ _ _ := makes_making _
  produceData _ _ _ := makes_making _
  consume _ _ _ := makes_making _
  consumeData _ _ _ := makes_making _
  setMaxSpatialLayer _ _ _ := rfl
  replaceTrack _ _ _ := rfl
  getParameters _ _ := rfl
  setParameters _ _ _ := rfl

end MediasoupClientSwift
