/-
A reader on a prepared input, with somebody who takes its lines.

The input is a list of things that waiting and reading come to, in
order; behind the last one it has ended, or stays open without bringing
anything. Each line is taken as soon as it is in the slot. Every step is
an action of the reader or a critical section of the slot.
-/
import ScreenUnlock.Input.Reader

namespace ScreenUnlock

/-- One thing that the input brings. -/
inductive Feed.Item where
  | read (arrival : Arrival)
  -- One wait for input comes to this, before the reads that follow.
  | wait (readiness : Readiness)
  deriving DecidableEq, Repr

/-- A prepared input. -/
structure Feed where
  items : List Feed.Item
  staysOpen : Bool
  deriving DecidableEq, Repr

namespace Feed

/-- The reads that bring these bytes: as many as fit into one read at a
time. -/
def readsOf (data : Bytes) : List Item :=
  if _nonempty : data ≠ [] then
    .read (.bytes (data.take readChunk)) :: readsOf (data.drop readChunk)
  else []
termination_by data.length
decreasing_by
  have : 0 < data.length := List.length_pos_iff.mpr _nonempty
  simp only [List.length_drop, readChunk]
  omega

end Feed

namespace Reader

/-- A reader at work. -/
structure Scene where
  reader : Reader
  slot : Slot
  feed : Feed

namespace Scene

/-- The next action of the reader and what the input brings after it;
`none` if the reader waits for something that does not come. An open
input that brings nothing lets a wait end only when there is a
cancellation to find. -/
def nextAction? (scene : Scene) : Option (Action × Feed) :=
  match scene.reader.phase, scene.feed.items with
  | .polling, .wait readiness :: items =>
    some (.poll readiness, { scene.feed with items })
  | .polling, .read _ :: _ => some (.poll .ready, scene.feed)
  | .polling, [] =>
    if scene.feed.staysOpen then
      if scene.slot.cancelled.isSome then some (.poll .idle, scene.feed)
      else none
    else some (.poll .ready, scene.feed)
  | .reading, .read arrival :: items =>
    some (.read arrival, { scene.feed with items })
  | .reading, _ => some (.read .endOfInput, scene.feed)
  | _, _ => some (.step, scene.feed)

/-- Let the reader go on until it waits or is over, in at most `fuel`
steps. -/
def advance : Nat → Scene → Scene
  | 0, scene => scene
  | fuel + 1, scene =>
    match scene.nextAction? with
    | none => scene
    | some (action, feed) =>
      match apply action scene.reader scene.slot with
      | none => scene
      | some next => advance fuel ⟨next.reader, next.slot, feed⟩

/-- Take lines until the session is cancelled or no line is left to
wait for, in at most `fuel` rounds of at most `fuel` steps. Of the lines,
at most `most` are taken if that is given. -/
def takeLines (fuel : Nat) : Nat → Option Nat → Scene → List Handoff × Scene
  | 0, _, scene => ([], scene)
  | rounds + 1, most, scene =>
    let scene := scene.advance fuel
    if most = some 0 then ([], scene)
    else
      match scene.slot.take? with
      | none => ([], scene)
      | some (.cancelled reason, slot') =>
        ([.cancelled reason], { scene with slot := slot' })
      | some (handoff, slot') =>
        let (later, scene') := takeLines fuel rounds (most.map (· - 1))
          { scene with slot := slot' }
        (handoff :: later, scene')

/-- Steps enough for the reader to go through the input: a few for each
thing it brings and for each line in it. -/
def enough (scene : Scene) : Nat :=
  let cost : Feed.Item → Nat
    | .read (.bytes data) => 8 * data.length + 8
    | _ => 8
  scene.feed.items.foldl (fun total item => total + cost item) 32

end Scene

end Reader

-- ======================================================== two rehearsals

/-- What a rehearsal of a reader shows. -/
structure ReaderReport where
  -- What each take brought; the last one is the cancellation.
  taken : List Handoff
  byReader : Option CancelReason
  isOver : Bool
  slot : Slot
  deriving DecidableEq, Repr

/-- Whether the takes came to an end with a cancellation. -/
def endsCancelled (taken : List Handoff) : Bool :=
  match taken.getLast? with
  | some (.cancelled _) => true
  | _ => false

/-- Let the taker go on until it learns of the cancellation. -/
def lastTake (taken : List Handoff) (slot : Slot) : List Handoff :=
  if endsCancelled taken then taken
  else taken ++ (slot.take?.map Prod.fst).toList

/-- A reader whose input is prepared item by item. When it is over the
session is cancelled for shutdown, which ends a taker that still
waits. -/
def rehearseReads (items : List Feed.Item) (maxLineLen : Nat) :
    ReaderReport :=
  let scene : Reader.Scene :=
    ⟨.new maxLineLen, .empty, ⟨items, false⟩⟩
  let (taken, scene') := scene.takeLines scene.enough scene.enough none
  let scene' := scene'.advance scene.enough
  let (_, slot') := scene'.slot.cancel .shutdown
  { taken := lastTake taken slot'
    byReader := scene'.slot.cancelled
    isOver := scene'.reader.isOver
    slot := slot' }

/-- A reader on a stream of bytes. Without a reason the stream is closed
behind the last byte, and lines are taken until the session is cancelled.
With a reason the stream stays open; after `most` lines (all of them if
absent) the session is cancelled for that reason. -/
def rehearseStream (chunks : List Bytes) (maxLineLen : Nat) (slot : Slot)
    (reason : Option CancelReason) (most : Option Nat) : ReaderReport :=
  let scene : Reader.Scene :=
    ⟨.new maxLineLen, slot,
      ⟨chunks.flatMap Feed.readsOf, reason.isSome⟩⟩
  let most := if reason.isSome then most else none
  let (taken, scene') := scene.takeLines scene.enough scene.enough most
  let slot' := match reason with
    | none => scene'.slot
    | some reason => (scene'.slot.cancel reason).2
  let scene'' := { scene' with slot := slot' }.advance scene.enough
  { taken := lastTake taken slot'
    byReader := scene''.slot.cancelled
    isOver := scene''.reader.isOver
    slot := scene''.slot }

end ScreenUnlock
