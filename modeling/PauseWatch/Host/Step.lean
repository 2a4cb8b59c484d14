import PauseWatch.Host.Delivery
import PauseWatch.Host.Entry
import PauseWatch.Host.Loading

/-!
# Steps of processes

The process that can go on first makes the next request, and the host answers it. Every request
costs some time. A process whose request cannot be answered yet waits; if nobody can go on, nothing
happens any more except that time passes.
-/

namespace PauseWatch.Host

/-! ## Costs in microseconds -/

/-- The cost of an ordinary request. -/
def requestCost : Nat := 5

/-- How many bytes are read or written in one microsecond. -/
def bytesPerMicro : Nat := 50

/-- The cost of reading or writing bytes. -/
def transferCost (bytes : List UInt8) : Nat := requestCost + bytes.length / bytesPerMicro

/-- The cost of starting a child. -/
def spawnCost : Nat := 200

/-- The cost of going on as another program. -/
def becomeCost : Nat := 600

/-! ## Reading and writing -/

/-- Takes at most so many bytes out of chunks. -/
def takeBytes (limit : Nat) : List (List UInt8) → List UInt8 × List (List UInt8)
  | [] => ([], [])
  | [] :: rest => takeBytes limit rest
  | (b :: bs) :: rest =>
    let chunk := b :: bs
    match chunk.drop limit with
    | [] => (chunk, rest)
    | left => (chunk.take limit, left :: rest)

/-- The bytes of the file that was opened under a number, and how it was opened. -/
def openedFile? (h : Host) (number : Nat) : Option (Opened × List UInt8) := do
  let o ← h.opened.lookup number
  match h.files.at? o.place with
  | some (.file bytes _) => some (o, bytes)
  | _ => some (o, [])

/-- Answers a request to read. -/
def readFrom (h : Host) (p : Process) (fd limit : Nat) : Host × Except Fault (List UInt8) :=
  match p.handle? fd with
  | none | some (.sink _) => (h, .error .badDescriptor)
  | some .folder => (h, .error .isFolder)
  | some (.device .null) => (h, .ok [])
  | some (.device _) => (h, .ok (List.replicate limit 0))
  | some (.source number) =>
    let c := h.conduit number
    let (bytes, waiting) := takeBytes limit c.waiting
    (h.changeConduit number fun c => { c with waiting, size := c.size - bytes.length }, .ok bytes)
  | some (.file number) =>
    match h.openedFile? number with
    | none => (h, .error .badDescriptor)
    | some (o, bytes) =>
      if o.access = .write || o.access = .append then (h, .error .badDescriptor)
      else
        let bytes := (bytes.drop o.offset).take limit
        ({ h with opened := replace number { o with offset := o.offset + bytes.length } h.opened },
          .ok bytes)

/-- The bytes of a file after a write at some point of it. -/
def overwrite (old : List UInt8) (offset : Nat) (bytes : List UInt8) : List UInt8 :=
  old.take offset ++ List.replicate (offset - old.length) 0 ++ bytes
    ++ old.drop (offset + bytes.length)

/-- What becomes of a request to write. -/
inductive Written where
  /-- All bytes are written. -/
  | all
  /-- Some bytes are left and have to wait. -/
  | left (bytes : List UInt8)
  /-- The request is refused. -/
  | refused (fault : Fault)

/-- Answers a request to write. Nobody reads a watched conduit any more once it has ended. -/
def writeTo (h : Host) (p : Process) (fd : Nat) (bytes : List UInt8) : Host × Written :=
  match p.handle? fd with
  | none | some (.source _) | some .folder => (h, .refused .badDescriptor)
  | some (.device .full) => (h, .refused .full)
  | some (.device _) => (h, .all)
  | some (.sink number) =>
    let c := h.conduit number
    if bytes = [] then (h, .all)
    else if c.isWatched then
      if c.endedAt.isSome then (h, .refused .brokenPipe)
      else (h.changeConduit number fun c => { c with seen := bytes :: c.seen }, .all)
    else if !h.hasReader number then (h, .refused .brokenPipe)
    else
      let now := bytes.take (conduitRoom - c.size)
      let h := h.changeConduit number fun c =>
        { c with waiting := c.waiting ++ [now], size := c.size + now.length }
      match bytes.drop (conduitRoom - c.size) with
      | [] => (h, .all)
      | left => (h, .left left)
  | some (.file number) =>
    match h.openedFile? number with
    | none => (h, .refused .badDescriptor)
    | some (o, old) =>
      if o.access = .read then (h, .refused .badDescriptor)
      else
        let offset := if o.access = .append then old.length else o.offset
        let executable := match h.files.at? o.place with
          | some (.file _ executable) => executable
          | _ => false
        ({ h with
            files := h.files.put o.place (.file (overwrite old offset bytes) executable)
            opened := replace number { o with offset := offset + bytes.length } h.opened },
          .all)

/-! ## Requests -/

/-- Whether the request of a process can be answered. -/
def canStep (h : Host) (p : Process) : Bool :=
  !p.isStopped && match p.program with
  | .read fd _ _ =>
    match p.handle? fd with
    | some (.source number) => 0 < (h.conduit number).size || !h.hasWriter number
    | _ => true
  | .write fd _ _ =>
    match p.handle? fd with
    | some (.sink number) =>
      let c := h.conduit number
      c.isWatched || c.size < conduitRoom || !h.hasReader number
    | _ => true
  | .wait child yields _ =>
    (h.remainsOf? p.identity.pid child).isSome || !h.hasChild p.identity.pid child
      || (yields && p.told != [])
  | _ => true

/-- The host after the request of a process was answered. -/
def answer (toolbox : Toolbox) (h : Host) (p : Process) : Host :=
  let pid := p.identity.pid
  let go (h : Host) (cost : Nat) (program : Program) : Host :=
    h.change pid fun q => { q with program, readyAt := h.now + cost }
  match p.program with
  | .exit status => h.finish pid (.exited (status % 256))
  | .pause micros next => go h micros (next ())
  | .read fd limit next =>
    let (h, result) := h.readFrom p fd limit
    go h (transferCost (result.toOption.getD [])) (next result)
  | .write fd bytes next =>
    match h.writeTo p fd bytes with
    | (h, .all) => go h (transferCost bytes) (next none)
    | (h, .left left) => go h (transferCost (bytes.drop left.length)) (.write fd left next)
    | (h, .refused fault) =>
      let h := if fault = .brokenPipe then h.deliver .brokenPipe pid else h
      go h requestCost (next (some fault))
  | .openFile path access next =>
    let (h, result) := h.openFile p path access
    go h requestCost (next result)
  | .handle fd next => go h 0 (next (p.handle? fd))
  | .attach fd handle next =>
    let table := match handle with
      | some handle => replace fd handle p.table
      | none => p.table.filter (·.1 != fd)
    go (h.change pid fun q => { q with table }) requestCost (next ())
  | .conduit next =>
    let number := h.nextNumber
    go { h with nextNumber := number + 1 } requestCost (next number)
  | .spawn child next =>
    let number := h.nextNumber
    let newborn := { p with
      identity := { p.identity with pid := number, parent := pid }
      program := child ()
      readyAt := h.now + spawnCost
      told := []
      held := [] }
    go { h with nextNumber := number + 1, processes := h.processes ++ [newborn] } spawnCost
      (next number)
  | .become path argv vars next =>
    match load h.files p.dir scriptDepth path argv with
    | .error fault => go h requestCost (next fault)
    | .ok (name, argv) =>
      if wordsFit argv vars then
        go (h.change pid fun q => { q with
            table := q.table.filter (·.1 < firstPrivate), caught := [], told := [] })
          becomeCost (toolbox name argv vars)
      else go h requestCost (next .tooManyWords)
  | .wait child yields next =>
    match h.remainsOf? pid child with
    | some r =>
      go { h with remains := h.remains.filter (·.identity.pid != r.identity.pid) } requestCost
        (next (.ended r.identity.pid r.ending))
    | none =>
      match p.told with
      | signal :: _ =>
        go h requestCost (next (if yields then .interrupted signal else .nobody))
      | [] => go h requestCost (next .nobody)
  | .send target number next =>
    let (h, fault) := h.send p.identity target number
    go h requestCost (next fault)
  | .arrange signal arrangement next =>
    let kept (a : Arrangement) (signals : List Signal) : List Signal :=
      signals.filter (· != signal) ++ (if arrangement = a then [signal] else [])
    go (h.change pid fun q => { q with
        ignored := kept .ignore q.ignored
        caught := kept .catch q.caught })
      requestCost (next ())
  | .caught next => go (h.change pid fun q => { q with told := [] }) 0 (next p.told)
  | .ignores signal next => go h 0 (next (p.ignored.contains signal))
  | .lead next =>
    go (h.change pid fun q => { q with identity := { q.identity with group := pid } }) requestCost
      (next ())
  | .identity next => go h 0 (next p.identity)
  | .enter path next =>
    match h.files.folder? p.dir path with
    | .ok dir => go (h.change pid fun q => { q with dir }) requestCost (next none)
    | .error fault => go h requestCost (next (some fault))
  | .here next => go h 0 (next p.dir)
  | .look path next =>
    go h requestCost (next ((h.files.find? p.dir path).map (·.2)))
  | .peek path next =>
    go h requestCost (next ((h.files.entry? false p.dir path).map (·.2)))
  | .place path next => go h requestCost (next (h.files.place? true p.dir path))
  | .names path next =>
    go h requestCost (next ((h.files.folder? p.dir path).map h.files.names))
  | .make path item next =>
    let (h, fault) := h.makeItem p path item
    go h requestCost (next fault)
  | .remove path next =>
    let (h, fault) := h.removeItem p path
    go h requestCost (next fault)
  | .move source target next =>
    let (h, fault) := h.moveItem p source target
    go h requestCost (next fault)
  | .permit path executable next =>
    let (h, fault) := h.permitItem p path executable
    go h requestCost (next fault)

/-- The process that can go on first. Of several, the one that has waited longest goes first. -/
def next? (h : Host) : Option Process :=
  (h.processes.filter h.canStep).foldl (fun first p =>
    match first with
    | none => some p
    | some q => some (if p.readyAt < q.readyAt then p else q)) none

/-- Lets processes go on until a time has come, something is reached, or nobody can go on any more.
The number bounds the steps. -/
def advance (toolbox : Toolbox) (limit : Option Nat) (reached : Host → Bool) : Nat → Host → Host
  | 0, h => h
  | fuel + 1, h =>
    if reached h then h
    else match h.next? with
      | none => { h with now := max h.now (limit.getD h.now) }
      | some p =>
        let now := max h.now p.readyAt
        if limit.any (· < now) then { h with now := max h.now (limit.getD now) }
        else advance toolbox limit reached fuel (answer toolbox { h with now } p).noteEnds

end PauseWatch.Host
