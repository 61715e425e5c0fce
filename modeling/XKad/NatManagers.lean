import XKad.NatHandshakes

/-!
# Detection of the local NAT type

`NatManager` takes its messages from a queue in a thread of its own. The handler of a
message or of the detection timer may set the NAT type under `mutex_`; `Stop` keeps
`mutex_` locked while it waits for the thread to exit.
-/
namespace XKad

inductive NatMessageType where
  | kadNatDetectRequest | kadNatDetectResponse
  | kadNatDetectHandshake2Node | kadNatDetectHandshake2Boot
  | kadNatDetectFinish
  | other
  deriving DecidableEq

/-- The value of `kKadNatDetectHandshake2Node` and of `kKadNatDetectHandshake2Boot`. -/
def kKadNatDetectHandshake2Node : Int32 := 25
def kKadNatDetectHandshake2Boot : Int32 := 26

structure NatDetectRequest where
  localIp : Bytes := []
  localPort : Int32 := 0
  deriving DecidableEq

structure NatDetectResponse where
  natType : Int32 := 0
  detectPort : Int32 := 0
  deriving DecidableEq

inductive NatData where
  | malformed
  | detectRequest (r : NatDetectRequest)
  | detectResponse (r : NatDetectResponse)
  deriving DecidableEq

/-- The fields of a routing message that NAT detection reads or writes. -/
structure NatMessage where
  type : NatMessageType
  id : UInt32 := 0
  hopNum : UInt32 := 0
  srcNodeId : Bytes := []
  desNodeId : Bytes := []
  isRoot : Bool := false
  data : NatData := .malformed
  deriving DecidableEq

structure NatPing where
  transport : ℕ
  message : NatMessage
  toIp : Bytes
  toPort : UInt16
  deriving DecidableEq

/-- `NatManager`. `timer` tells whether a detection timer was started whose callback has
not run, `thread` whether `thread_` is set, `sent` lists the messages sent. -/
structure NatManager where
  started : Bool := false
  stopped : Bool := false
  natType : Int32 := kNatTypePublic
  messageQueue : List (NatMessage × XPacket) := []
  natHandshakeManager : NatHandshakeManager := {}
  timer : Bool := false
  transport : ℕ := 0
  natTransport : ℕ := 1
  natLocalPort : UInt16 := 0
  threadDestroy : Bool := false
  thread : Bool := false
  sent : List NatPing := []

namespace NatManager

/-- `MessageQueue::PushMessage`: a long queue drops the new message. -/
def pushMessage (message : NatMessage) (packet : XPacket) (m : NatManager) : NatManager :=
  if 1000 < m.messageQueue.length then m
  else { m with messageQueue := m.messageQueue ++ [(message, packet)] }

def addDetection (d : NatDetection) (m : NatManager) : NatManager :=
  { m with natHandshakeManager := m.natHandshakeManager.addDetection d }

/-- `HandleNatDetectRequest`: the answer, and the handshakes to a peer that does not
see itself at the endpoint of its packet. -/
def handleNatDetectRequest (message : NatMessage) (packet : XPacket) (m : NatManager) : NatManager :=
  match message.data with
  | .detectRequest r =>
    let isPublic := r.localIp = packet.fromIp ∧ r.localPort = ofPort packet.fromPort
    let response : NatDetectResponse := {
      natType := if isPublic then kNatTypePublic else kNatTypeUnknown
      detectPort := ofPort m.natLocalPort }
    let answer : NatMessage := {
      type := .kadNatDetectResponse
      id := message.id
      desNodeId := message.srcNodeId
      isRoot := message.isRoot
      data := .detectResponse response }
    let m := { m with sent := m.sent ++ [⟨m.transport, answer, packet.fromIp, packet.fromPort⟩] }
    if isPublic then m
    else m.addDetection {
      ip := packet.fromIp
      port := packet.fromPort
      transport := m.natTransport
      detectPort := packet.fromPort
      messageType := kKadNatDetectHandshake2Node
      delayMs := 0 }
  | _ => m

/-- `HandleNatDetectResponse`, with the NAT type it is about to set. -/
def handleNatDetectResponse (message : NatMessage) (packet : XPacket) (m : NatManager) :
    NatManager × Option Int32 :=
  match message.data with
  | .detectResponse r =>
    if r.natType = kNatTypePublic then (m, some kNatTypePublic)
    else
      let m := m.addDetection {
        ip := packet.fromIp
        port := packet.fromPort
        transport := m.natTransport
        detectPort := toPort r.detectPort
        messageType := kKadNatDetectHandshake2Boot
        delayMs := 500 }
      ({ m with timer := true }, none)
  | _ => (m, none)

def handleNatDetectFinish (packet : XPacket) (m : NatManager) : NatManager :=
  { m with
    natHandshakeManager := m.natHandshakeManager.removeDetection packet.fromIp packet.fromPort }

/-- The switch of `ThreadProc`, with the NAT type that is still to be set. -/
def handle (message : NatMessage) (packet : XPacket) (m : NatManager) : NatManager × Option Int32 :=
  match message.type with
  | .kadNatDetectRequest => (m.handleNatDetectRequest message packet, none)
  | .kadNatDetectResponse => m.handleNatDetectResponse message packet
  | .kadNatDetectHandshake2Node => (m, some kNatTypeConeNormal)
  | .kadNatDetectHandshake2Boot => (m, none)
  | .kadNatDetectFinish => (m.handleNatDetectFinish packet, none)
  | .other => (m, none)

def setNatTypeAndNotify (natType : Int32) (m : NatManager) : NatManager :=
  if m.natType ≠ kNatTypeUnknown then m else { m with natType := natType }

/-- What `Start` sets up before its thread runs. -/
def start (firstNode : Bool) (transport natTransport : ℕ) (natLocalPort : UInt16) (m : NatManager) :
    NatManager :=
  { m with
    started := true
    natType := if firstNode then kNatTypePublic else kNatTypeUnknown
    messageQueue := []
    natHandshakeManager := {}
    transport := transport
    natTransport := natTransport
    natLocalPort := natLocalPort
    threadDestroy := false
    thread := true }

end NatManager

def NatMessage.notifies (message : NatMessage) : Bool :=
  match message.type, message.data with
  | .kadNatDetectHandshake2Node, _ => true
  | .kadNatDetectResponse, .detectResponse r => decide (r.natType = kNatTypePublic)
  | _, _ => false

theorem NatManager.handle_notifies (message : NatMessage) (packet : XPacket) (m : NatManager) :
    (m.handle message packet).2.isSome = message.notifies := by
  obtain ⟨type, id, hopNum, srcNodeId, desNodeId, isRoot, data⟩ := message
  cases type with
  | kadNatDetectResponse =>
    cases data with
    | detectResponse r =>
      dsimp only [handle, handleNatDetectResponse, NatMessage.notifies]
      split_ifs with hpublic <;> simp [hpublic]
    | malformed => rfl
    | detectRequest r => rfl
  | _ => rfl

/-- Where the thread of `ThreadProc` is: before the test of `thread_destroy_`, at the
queue, with a message, before or after it has locked `mutex_` to set the NAT type. -/
inductive WorkerPoint where
  | testing
  | fetching
  | handling (message : NatMessage) (packet : XPacket)
  | setting (natType : Int32)
  | settingLocked (natType : Int32)
  | exited
  deriving DecidableEq

/-- Where `Stop` is: before or after it has locked `mutex_`, in the `join` of the
thread, or past it. -/
inductive StopPoint where
  | uncalled | locking | locked | joining | closing | returned
  deriving DecidableEq

inductive TimerPoint where
  | waiting | setting | settingLocked
  deriving DecidableEq

inductive NatParty where
  | worker | stop | timer
  deriving DecidableEq

/-- The manager, the holder of `mutex_` and the points of the three parties. -/
structure NatThreads where
  manager : NatManager
  owner : Option NatParty := none
  worker : WorkerPoint := .testing
  stop : StopPoint := .uncalled
  timer : TimerPoint := .waiting

namespace NatThreads

def Unfinished : NatParty → NatThreads → Prop
  | .worker, s => s.worker ≠ .exited
  | .stop, s => s.stop ≠ .uncalled ∧ s.stop ≠ .returned
  | .timer, s => s.timer ≠ .waiting

instance (p : NatParty) (s : NatThreads) : Decidable (Unfinished p s) :=
  match p with
  | .worker => inferInstanceAs (Decidable (s.worker ≠ .exited))
  | .stop => inferInstanceAs (Decidable (s.stop ≠ .uncalled ∧ s.stop ≠ .returned))
  | .timer => inferInstanceAs (Decidable (s.timer ≠ .waiting))

/-- The next step of `ThreadProc`. An empty queue lets `GetMessage` time out. -/
def advanceWorker (s : NatThreads) : Option NatThreads :=
  match s.worker with
  | .testing => some { s with worker := if s.manager.threadDestroy then .exited else .fetching }
  | .fetching =>
    match s.manager.messageQueue with
    | [] => some { s with worker := .testing }
    | (message, packet) :: rest =>
      some { s with
        manager := { s.manager with messageQueue := rest }
        worker := .handling message packet }
  | .handling message packet =>
    let handled := s.manager.handle message packet
    some { s with
      manager := handled.1
      worker := match handled.2 with | none => .testing | some natType => .setting natType }
  | .setting natType =>
    if s.owner = none then some { s with owner := some .worker, worker := .settingLocked natType }
    else none
  | .settingLocked natType =>
    some { s with manager := s.manager.setNatTypeAndNotify natType, owner := none, worker := .testing }
  | .exited => none

/-- The next step of `Stop` with `ThreadJoin`. A timer that runs already is not stopped
by `timer_ = nullptr`. -/
def advanceStop (s : NatThreads) : Option NatThreads :=
  match s.stop with
  | .uncalled => none
  | .locking => if s.owner = none then some { s with owner := some .stop, stop := .locked } else none
  | .locked =>
    if !s.manager.started then some { s with owner := none, stop := .returned }
    else if s.manager.thread then
      some { s with manager := { s.manager with threadDestroy := true }, stop := .joining }
    else some { s with stop := .closing }
  | .joining =>
    if s.worker = .exited then
      some { s with manager := { s.manager with thread := false }, stop := .closing }
    else none
  | .closing =>
    some { s with manager := { s.manager with stopped := true }, owner := none, stop := .returned }
  | .returned => none

def advanceTimer (s : NatThreads) : Option NatThreads :=
  match s.timer with
  | .waiting => none
  | .setting => if s.owner = none then some { s with owner := some .timer, timer := .settingLocked } else none
  | .settingLocked =>
    some { s with
      manager := s.manager.setNatTypeAndNotify kNatTypeConeAbnormal
      owner := none
      timer := .waiting }

def advance : NatParty → NatThreads → Option NatThreads
  | .worker => advanceWorker
  | .stop => advanceStop
  | .timer => advanceTimer

end NatThreads

/-- What can happen next: a message arrives, `Stop` is called, the timer expires, or a
party is scheduled. -/
inductive NatEvent where
  | pushMessage (message : NatMessage) (packet : XPacket)
  | callStop
  | timeout
  | run (p : NatParty)
  deriving DecidableEq

namespace NatThreads

def next : NatEvent → NatThreads → NatThreads
  | .pushMessage message packet, s => { s with manager := s.manager.pushMessage message packet }
  | .callStop, s => if s.stop = .uncalled ∨ s.stop = .returned then { s with stop := .locking } else s
  | .timeout, s =>
    if s.manager.timer ∧ s.timer = .waiting then
      { s with manager := { s.manager with timer := false }, timer := .setting }
    else s
  | .run p, s => (advance p s).getD s

def holds (s : NatThreads) : NatParty → Bool
  | .worker => match s.worker with | .settingLocked _ => true | _ => false
  | .stop => match s.stop with | .locked | .joining | .closing => true | _ => false
  | .timer => match s.timer with | .settingLocked => true | _ => false

def notifying (s : NatThreads) : Bool :=
  match s.worker with
  | .handling message _ => message.notifies
  | .setting _ => true
  | _ => false

def nextNotifies (s : NatThreads) : Bool := s.manager.messageQueue.head?.any (fun e => e.1.notifies)

/-- `Stop` locks `mutex_` only while the thread is not on its way to do so, and while
`Stop` has it the thread takes no message that makes it lock `mutex_`. -/
def Timely : NatEvent → NatThreads → Prop
  | .run .stop, s => s.stop = .locking → s.owner = none → s.notifying = false
  | .run .worker, s => s.worker = .fetching → s.owner = some .stop → s.nextNotifies = false
  | _, _ => True

structure Running (s : NatThreads) : Prop where
  owner : HeldBy s.owner s.holds
  started : s.manager.started = true
  joined : s.stop = .closing ∨ s.manager.thread = false → s.worker = .exited

theorem handle_started (message : NatMessage) (packet : XPacket) (m : NatManager) :
    (m.handle message packet).1.started = m.started ∧ (m.handle message packet).1.thread = m.thread := by
  obtain ⟨type, id, hopNum, srcNodeId, desNodeId, isRoot, data⟩ := message
  cases type with
  | kadNatDetectRequest =>
    cases data with
    | detectRequest r =>
      dsimp only [NatManager.handle, NatManager.handleNatDetectRequest]
      split_ifs <;> exact ⟨rfl, rfl⟩
    | malformed => exact ⟨rfl, rfl⟩
    | detectResponse r => exact ⟨rfl, rfl⟩
  | kadNatDetectResponse =>
    cases data with
    | detectResponse r =>
      dsimp only [NatManager.handle, NatManager.handleNatDetectResponse]
      split_ifs <;> exact ⟨rfl, rfl⟩
    | malformed => exact ⟨rfl, rfl⟩
    | detectRequest r => exact ⟨rfl, rfl⟩
  | _ => exact ⟨rfl, rfl⟩

theorem setNatTypeAndNotify_started (natType : Int32) (m : NatManager) :
    (m.setNatTypeAndNotify natType).started = m.started ∧ (m.setNatTypeAndNotify natType).thread = m.thread := by
  rw [NatManager.setNatTypeAndNotify]
  split_ifs <;> exact ⟨rfl, rfl⟩

theorem pushMessage_started (message : NatMessage) (packet : XPacket) (m : NatManager) :
    (m.pushMessage message packet).started = m.started ∧ (m.pushMessage message packet).thread = m.thread := by
  rw [NatManager.pushMessage]
  split_ifs <;> exact ⟨rfl, rfl⟩

variable {s s' : NatThreads}

/-- What the thread does: it locks and unlocks `mutex_` to set the NAT type, and is on
its way to do so once it has taken a message that makes it. -/
structure WorkerStep (s s' : NatThreads) : Prop where
  use : MutexUse .worker s.owner s'.owner s.holds s'.holds
  running : s.worker ≠ .exited
  started : s'.manager.started = s.manager.started
  thread : s'.manager.thread = s.manager.thread
  stop : s'.stop = s.stop
  notifying : s'.notifying = true → s.notifying = true ∨ s.worker = .fetching ∧ s.nextNotifies = true

theorem workerStep (hs : s.advanceWorker = some s') : WorkerStep s s' := by
  obtain ⟨manager, owner, worker, stop, timer⟩ := s
  cases worker with
  | testing =>
    obtain rfl := Option.some.inj hs
    cases hdestroy : manager.threadDestroy with
    | false =>
      refine ⟨.keeps rfl (fun p => ?_), nofun, rfl, rfl, rfl, nofun⟩
      cases p <;> rfl
    | true =>
      refine ⟨.keeps rfl (fun p => ?_), nofun, rfl, rfl, rfl, nofun⟩
      cases p <;> rfl
  | fetching =>
    cases hqueue : manager.messageQueue with
    | nil =>
      simp only [NatThreads.advanceWorker, hqueue, Option.some.injEq] at hs
      subst hs
      refine ⟨.keeps rfl (fun p => ?_), nofun, rfl, rfl, rfl, nofun⟩
      cases p <;> rfl
    | cons e rest =>
      simp only [NatThreads.advanceWorker, hqueue, Option.some.injEq] at hs
      subst hs
      refine ⟨.keeps rfl (fun p => ?_), nofun, rfl, rfl, rfl, fun hnotifies => Or.inr ⟨rfl, ?_⟩⟩
      · cases p <;> rfl
      · rw [nextNotifies, hqueue]
        exact hnotifies
  | handling message packet =>
    obtain rfl := Option.some.inj hs
    obtain ⟨hstarted, hthread⟩ := handle_started message packet manager
    have hnotifies := NatManager.handle_notifies message packet manager
    cases hsets : (manager.handle message packet).2 with
    | none =>
      refine ⟨.keeps rfl (fun p => ?_), nofun, hstarted, hthread, rfl, nofun⟩
      cases p <;> rfl
    | some natType =>
      rw [hsets] at hnotifies
      refine ⟨.keeps rfl (fun p => ?_), nofun, hstarted, hthread, rfl, fun _ => Or.inl hnotifies.symm⟩
      cases p <;> rfl
  | setting natType =>
    simp only [NatThreads.advanceWorker] at hs
    split_ifs at hs with hfree
    obtain rfl := Option.some.inj hs
    refine ⟨.locks hfree rfl rfl (fun p hp => ?_), nofun, rfl, rfl, rfl, nofun⟩
    cases p <;> first | rfl | exact absurd rfl hp
  | settingLocked natType =>
    obtain rfl := Option.some.inj hs
    obtain ⟨hstarted, hthread⟩ := setNatTypeAndNotify_started natType manager
    refine ⟨.unlocks rfl rfl rfl (fun p hp => ?_), nofun, hstarted, hthread, rfl, nofun⟩
    cases p <;> first | rfl | exact absurd rfl hp
  | exited => cases hs

/-- What `Stop` does: it locks `mutex_` first, and is past the join only when there is
no thread to wait for. -/
structure StopStep (s s' : NatThreads) : Prop where
  use : MutexUse .stop s.owner s'.owner s.holds s'.holds
  locks : s'.owner = some .stop → s.owner = some .stop ∨ s.stop = .locking ∧ s.owner = none
  worker : s'.worker = s.worker
  started : s'.manager.started = s.manager.started
  joined : s'.stop = .closing ∨ s'.manager.thread = false →
    (s.stop = .closing ∨ s.manager.thread = false) ∨ s.worker = .exited

theorem stopStep (hs : s.advanceStop = some s') : StopStep s s' := by
  obtain ⟨manager, owner, worker, stop, timer⟩ := s
  cases stop with
  | uncalled => cases hs
  | locking =>
    simp only [NatThreads.advanceStop] at hs
    split_ifs at hs with hfree
    obtain rfl := Option.some.inj hs
    refine ⟨.locks hfree rfl rfl (fun p hp => ?_), fun _ => Or.inr ⟨rfl, hfree⟩, rfl, rfl,
      fun hj => Or.inl (hj.imp_left nofun)⟩
    cases p <;> first | rfl | exact absurd rfl hp
  | locked =>
    simp only [NatThreads.advanceStop] at hs
    split_ifs at hs with hstarted hthread
    · obtain rfl := Option.some.inj hs
      refine ⟨.unlocks rfl rfl rfl (fun p hp => ?_), nofun, rfl, rfl, fun hj => Or.inl (hj.imp_left nofun)⟩
      cases p <;> first | rfl | exact absurd rfl hp
    · obtain rfl := Option.some.inj hs
      refine ⟨.keeps rfl (fun p => ?_), Or.inl, rfl, rfl, fun hj => Or.inl (hj.imp_left nofun)⟩
      cases p <;> rfl
    · obtain rfl := Option.some.inj hs
      refine ⟨.keeps rfl (fun p => ?_), Or.inl, rfl, rfl, fun _ => Or.inl (Or.inr (by simpa using hthread))⟩
      cases p <;> rfl
  | joining =>
    simp only [NatThreads.advanceStop] at hs
    split_ifs at hs with hexited
    obtain rfl := Option.some.inj hs
    refine ⟨.keeps rfl (fun p => ?_), Or.inl, rfl, rfl, fun _ => Or.inr hexited⟩
    cases p <;> rfl
  | closing =>
    obtain rfl := Option.some.inj hs
    refine ⟨.unlocks rfl rfl rfl (fun p hp => ?_), nofun, rfl, rfl, fun _ => Or.inl (Or.inl rfl)⟩
    cases p <;> first | rfl | exact absurd rfl hp
  | returned => cases hs

structure OtherStep (s s' : NatThreads) : Prop where
  use : MutexUse .timer s.owner s'.owner s.holds s'.holds
  worker : s'.worker = s.worker
  started : s'.manager.started = s.manager.started
  thread : s'.manager.thread = s.manager.thread
  closing : s'.stop = .closing → s.stop = .closing

theorem otherStep (hs : s.advanceTimer = some s') : OtherStep s s' := by
  obtain ⟨manager, owner, worker, stop, timer⟩ := s
  cases timer with
  | waiting => cases hs
  | setting =>
    simp only [NatThreads.advanceTimer] at hs
    split_ifs at hs with hfree
    obtain rfl := Option.some.inj hs
    refine ⟨.locks hfree rfl rfl (fun p hp => ?_), rfl, rfl, rfl, id⟩
    cases p <;> first | rfl | exact absurd rfl hp
  | settingLocked =>
    obtain rfl := Option.some.inj hs
    obtain ⟨hstarted, hthread⟩ := setNatTypeAndNotify_started kNatTypeConeAbnormal manager
    refine ⟨.unlocks rfl rfl rfl (fun p hp => ?_), rfl, hstarted, hthread, id⟩
    cases p <;> first | rfl | exact absurd rfl hp

theorem OtherStep.refl (s : NatThreads) : OtherStep s s := ⟨.keeps rfl (fun _ => rfl), rfl, rfl, rfl, id⟩

theorem next_cases (e : NatEvent) (s : NatThreads) :
    (e = .run .worker ∧ WorkerStep s (next e s)) ∨ (e = .run .stop ∧ StopStep s (next e s)) ∨
      OtherStep s (next e s) := by
  cases e with
  | pushMessage message packet =>
    obtain ⟨hstarted, hthread⟩ := pushMessage_started message packet s.manager
    refine Or.inr (Or.inr ⟨.keeps rfl (fun p => ?_), rfl, hstarted, hthread, id⟩)
    cases p <;> rfl
  | callStop =>
    refine Or.inr (Or.inr ?_)
    dsimp only [next]
    split_ifs with hfinal
    · refine ⟨.keeps rfl (fun p => ?_), rfl, rfl, rfl, nofun⟩
      cases p <;> dsimp only [holds]
      rcases hfinal with heq | heq <;> rw [heq]
    · exact .refl s
  | timeout =>
    refine Or.inr (Or.inr ?_)
    dsimp only [next]
    split_ifs with hexpires
    · refine ⟨.keeps rfl (fun p => ?_), rfl, rfl, rfl, id⟩
      cases p <;> dsimp only [holds]
      rw [hexpires.2]
    · exact .refl s
  | run p =>
    dsimp only [next]
    cases hs : advance p s with
    | none => exact Or.inr (Or.inr (.refl s))
    | some s' =>
      cases p with
      | worker => exact Or.inl ⟨rfl, workerStep hs⟩
      | stop => exact Or.inr (Or.inl ⟨rfl, stopStep hs⟩)
      | timer => exact Or.inr (Or.inr (otherStep hs))

theorem Running.step (h : Running s) (e : NatEvent) : Running (next e s) := by
  rcases next_cases e s with ⟨_, hw⟩ | ⟨_, hs⟩ | ho
  · refine ⟨h.owner.step hw.use, hw.started.trans h.started, fun hj => ?_⟩
    rw [hw.stop, hw.thread] at hj
    exact absurd (h.joined hj) hw.running
  · refine ⟨h.owner.step hs.use, hs.started.trans h.started, fun hj => ?_⟩
    rw [hs.worker]
    exact (hs.joined hj).elim h.joined id
  · refine ⟨h.owner.step ho.use, ho.started.trans h.started, fun hj => ?_⟩
    rw [ho.thread] at hj
    rw [ho.worker]
    exact h.joined (hj.imp_left ho.closing)

/-- While `Stop` has `mutex_` the thread is not on its way to lock it. -/
def Quiet (s : NatThreads) : Prop := s.owner = some .stop → s.notifying = false

theorem notifying_of_worker (hw : s'.worker = s.worker) : s'.notifying = s.notifying := by
  rw [notifying, notifying, hw]

theorem Quiet.step (h : Quiet s) {e : NatEvent} (ht : Timely e s) : Quiet (next e s) := by
  intro howner'
  rcases next_cases e s with ⟨rfl, hw⟩ | ⟨rfl, hs⟩ | ho
  · have howner := hw.use.owner_of_ne (r := .stop) nofun howner'
    by_contra hnotifying
    rcases hw.notifying (by simpa using hnotifying) with hwas | ⟨hfetching, htaken⟩
    · exact absurd (h howner) (by simp [hwas])
    · exact absurd (ht hfetching howner) (by simp [htaken])
  · rw [notifying_of_worker hs.worker]
    rcases hs.locks howner' with howner | ⟨hlocking, hfree⟩
    · exact h howner
    · exact ht hlocking hfree
  · rw [notifying_of_worker ho.worker]
    exact h (ho.use.owner_of_ne (r := .stop) nofun howner')

theorem advanceWorker_isSome (hworker : s.worker ≠ .exited)
    (hfree : s.owner = none ∨ s.notifying = false) : s.advanceWorker.isSome := by
  obtain ⟨manager, owner, worker, stop, timer⟩ := s
  cases worker with
  | testing => rfl
  | fetching =>
    rw [NatThreads.advanceWorker]
    cases manager.messageQueue <;> rfl
  | handling message packet => rfl
  | setting natType =>
    rcases hfree with rfl | hquiet
    · rfl
    · cases hquiet
  | settingLocked natType => rfl
  | exited => exact absurd rfl hworker

theorem advanceStop_isSome (hstop : Unfinished .stop s) (hfree : s.owner = none ∨ s.holds .stop = true)
    (hjoin : s.stop = .joining → s.worker = .exited) : s.advanceStop.isSome := by
  obtain ⟨manager, owner, worker, stop, timer⟩ := s
  cases stop with
  | uncalled => exact absurd rfl hstop.1
  | locking =>
    rcases hfree with rfl | hheld
    · rfl
    · cases hheld
  | locked =>
    dsimp only [NatThreads.advanceStop]
    split_ifs <;> rfl
  | joining =>
    dsimp only [NatThreads.advanceStop]
    rw [if_pos (hjoin rfl)]
    rfl
  | closing => rfl
  | returned => exact absurd rfl hstop.2

theorem advanceTimer_isSome (htimer : Unfinished .timer s)
    (hfree : s.owner = none ∨ s.holds .timer = true) : s.advanceTimer.isSome := by
  obtain ⟨manager, owner, worker, stop, timer⟩ := s
  cases timer with
  | waiting => exact absurd rfl htimer
  | setting =>
    rcases hfree with rfl | hheld
    · rfl
    · cases hheld
  | settingLocked => rfl

/-- A holder of `mutex_` other than a joining `Stop` goes on, and a joining `Stop` waits
for a thread that goes on. -/
theorem Running.not_deadlock (h : Running s) (hq : Quiet s) : ¬ Deadlock advance Unfinished s := by
  apply XKad.not_deadlock
  intro p hp
  cases howner : s.owner with
  | none =>
    refine ⟨p, hp, ?_⟩
    cases p with
    | worker => exact advanceWorker_isSome hp (Or.inl howner)
    | stop =>
      refine advanceStop_isSome hp (Or.inl howner) (fun hjoin => ?_)
      have hheld : s.holds .stop = true := by rw [holds, hjoin]
      rw [← h.owner .stop, howner] at hheld
      cases hheld
    | timer => exact advanceTimer_isSome hp (Or.inl howner)
  | some q =>
    have hheld : s.holds q = true := (h.owner q).mp howner
    cases q with
    | worker =>
      have hlocked : ∃ natType, s.worker = .settingLocked natType := by
        cases hw : s.worker <;> simp [holds, hw] at hheld ⊢
      obtain ⟨natType, hw⟩ := hlocked
      have hworker : s.worker ≠ .exited := by simp [hw]
      exact ⟨.worker, hworker, advanceWorker_isSome hworker (Or.inr (by rw [notifying, hw]))⟩
    | timer =>
      have htimer : Unfinished .timer s := by
        intro hwaiting
        rw [holds, hwaiting] at hheld
        cases hheld
      exact ⟨.timer, htimer, advanceTimer_isSome htimer (Or.inr hheld)⟩
    | stop =>
      by_cases hjoin : s.stop = .joining ∧ s.worker ≠ .exited
      · exact ⟨.worker, hjoin.2, advanceWorker_isSome hjoin.2 (Or.inr (hq howner))⟩
      · have hstop : Unfinished .stop s := by
          constructor <;> intro heq <;> rw [holds, heq] at hheld <;> cases hheld
        refine ⟨.stop, hstop, advanceStop_isSome hstop (Or.inr hheld) (fun hjoining => ?_)⟩
        by_contra hworker
        exact hjoin ⟨hjoining, hworker⟩

def started (firstNode : Bool) (transport natTransport : ℕ) (natLocalPort : UInt16) (m : NatManager) :
    NatThreads where
  manager := m.start firstNode transport natTransport natLocalPort

variable {firstNode : Bool} {transport natTransport : ℕ} {natLocalPort : UInt16} {m : NatManager}

theorem running_started : Running (started firstNode transport natTransport natLocalPort m) := by
  refine ⟨?_, rfl, ?_⟩
  · intro p
    cases p <;> simp [started, holds]
  · rintro (hstop | hthread)
    · cases hstop
    · cases hthread

theorem Running.deadlock (h : Running s) (howner : s.owner = some .stop) (hstop : s.stop = .joining)
    (natType : Int32) (hworker : s.worker = .setting natType) : Deadlock advance Unfinished s := by
  refine ⟨⟨.stop, by simp [Unfinished, hstop]⟩, fun p hp => ?_⟩
  cases p with
  | worker => simp [advance, NatThreads.advanceWorker, hworker, howner]
  | stop => simp [advance, NatThreads.advanceStop, hstop, hworker]
  | timer =>
    have hheld := h.owner .timer
    cases htimer : s.timer with
    | waiting => exact absurd htimer hp
    | setting => simp [advance, NatThreads.advanceTimer, htimer, howner]
    | settingLocked => simp [howner, holds, htimer] at hheld

theorem Running.deadlock_of_joining (h : Running s) (howner : s.owner = some .stop) (hstop : s.stop = .joining)
    (hnotifying : s.notifying = true) : ∃ es, Deadlock advance Unfinished (follow next es s) := by
  cases hworker : s.worker with
  | setting natType => exact ⟨[], h.deadlock howner hstop natType hworker⟩
  | handling message packet =>
    have hnotifies : message.notifies = true := by rwa [notifying, hworker] at hnotifying
    rw [← NatManager.handle_notifies message packet s.manager, Option.isSome_iff_exists] at hnotifies
    obtain ⟨natType, hsets⟩ := hnotifies
    have hnext : next (.run .worker) s =
        { s with manager := (s.manager.handle message packet).1, worker := .setting natType } := by
      simp only [next, advance, NatThreads.advanceWorker, hworker, hsets, Option.getD_some]
    refine ⟨[.run .worker], ?_⟩
    rw [follow_cons, follow_nil]
    refine (h.step (.run .worker)).deadlock ?_ ?_ natType ?_ <;> rw [hnext]
    · exact howner
    · exact hstop
  | _ => rw [notifying, hworker] at hnotifying; cases hnotifying

theorem Running.deadlock_of_locked (h : Running s) (howner : s.owner = some .stop) (hstop : s.stop = .locked)
    (hnotifying : s.notifying = true) : ∃ es, Deadlock advance Unfinished (follow next es s) := by
  have hthread : s.manager.thread = true := by
    by_contra hnone
    have hexited := h.joined (Or.inr (by simpa using hnone))
    rw [notifying, hexited] at hnotifying
    cases hnotifying
  have hnext : next (.run .stop) s =
      { s with manager := { s.manager with threadDestroy := true }, stop := .joining } := by
    simp [next, advance, NatThreads.advanceStop, hstop, hthread, h.started]
  obtain ⟨es, hdead⟩ := (h.step (.run .stop)).deadlock_of_joining (by rw [hnext]; exact howner)
    (by rw [hnext]) (by rw [hnext]; exact hnotifying)
  exact ⟨.run .stop :: es, hdead⟩

/-- From a step that is not timely a deadlock is within reach. -/
theorem Running.deadlock_of_not_timely (h : Running s) {e : NatEvent} (he : ¬ Timely e s) :
    ∃ es, Deadlock advance Unfinished (follow next (e :: es) s) := by
  cases e with
  | pushMessage message packet => exact absurd trivial he
  | callStop => exact absurd trivial he
  | timeout => exact absurd trivial he
  | run p =>
    cases p with
    | timer => exact absurd trivial he
    | stop =>
      simp only [Timely, Classical.not_imp, Bool.not_eq_false] at he
      obtain ⟨hstop, hfree, hnotifying⟩ := he
      have hnext : next (.run .stop) s = { s with owner := some .stop, stop := .locked } := by
        simp [next, advance, NatThreads.advanceStop, hstop, hfree]
      exact (h.step (.run .stop)).deadlock_of_locked (by rw [hnext]) (by rw [hnext])
        (by rw [hnext]; exact hnotifying)
    | worker =>
      simp only [Timely, Classical.not_imp, Bool.not_eq_false] at he
      obtain ⟨hworker, howner, hnotifies⟩ := he
      have hheld : s.holds .stop = true := (h.owner .stop).mp howner
      cases hqueue : s.manager.messageQueue with
      | nil => simp [nextNotifies, hqueue] at hnotifies
      | cons e rest =>
        have hnext : next (.run .worker) s =
            { s with manager := { s.manager with messageQueue := rest }, worker := .handling e.1 e.2 } := by
          simp [next, advance, NatThreads.advanceWorker, hworker, hqueue]
        have hnotifying : (next (.run .worker) s).notifying = true := by
          rw [hnext]
          rw [nextNotifies, hqueue] at hnotifies
          exact hnotifies
        have howner' : (next (.run .worker) s).owner = some .stop := by rw [hnext]; exact howner
        cases hstop : s.stop with
        | locked => exact (h.step _).deadlock_of_locked howner' (by rw [hnext]; exact hstop) hnotifying
        | joining => exact (h.step _).deadlock_of_joining howner' (by rw [hnext]; exact hstop) hnotifying
        | closing => rw [h.joined (Or.inl hstop)] at hworker; cases hworker
        | _ => rw [holds, hstop] at hheld; cases hheld

/-- `Stop`, the thread and the timer do not deadlock in a run in which `Stop` and the
thread's way to `mutex_` keep apart, and the first step that does not can lead to a
deadlock. -/
theorem stop_not_deadlock {es : List NatEvent}
    (h : Along next Timely es (started firstNode transport natTransport natLocalPort m)) :
    let s := follow next es (started firstNode transport natTransport natLocalPort m)
    ¬ Deadlock advance Unfinished s ∧
      ∀ e, ¬ Timely e s → ∃ es', Deadlock advance Unfinished (follow next (e :: es') s) := by
  have hquiet : Quiet (started firstNode transport natTransport natLocalPort m) := fun howner => by cases howner
  have hboth := along_invariant (I := fun s => Running s ∧ Quiet s)
    (fun e _ ht hi => ⟨hi.1.step e, hi.2.step ht⟩) h ⟨running_started, hquiet⟩
  exact ⟨hboth.1.not_deadlock hboth.2, fun _ he => hboth.1.deadlock_of_not_timely he⟩

instance (e : NatEvent) (s : NatThreads) : Decidable (Timely e s) :=
  match e with
  | .run .stop => inferInstanceAs (Decidable (s.stop = .locking → s.owner = none → s.notifying = false))
  | .run .worker =>
    inferInstanceAs (Decidable (s.worker = .fetching → s.owner = some .stop → s.nextNotifies = false))
  | .run .timer | .pushMessage _ _ | .callStop | .timeout => isTrue trivial

def bootHandshake : NatEvent := .pushMessage { type := .kadNatDetectHandshake2Node } ⟨[50], 9000⟩

theorem stop_not_deadlock_handled :
    let s := follow next (bootHandshake :: List.replicate 5 (.run .worker) ++
      [.callStop, .run .stop, .run .stop, .run .worker]) (started false 0 1 9000 {})
    ¬ Deadlock advance Unfinished s ∧
      ∀ e, ¬ Timely e s → ∃ es', Deadlock advance Unfinished (follow next (e :: es') s) :=
  stop_not_deadlock (by decide +kernel)

/-- `Stop` locks `mutex_` while the thread works on a handshake. -/
theorem not_stop_not_deadlock : ¬ ∀ (firstNode : Bool) (transport natTransport : ℕ) (natLocalPort : UInt16)
    (m : NatManager) (es : List NatEvent),
    ¬ Deadlock advance Unfinished (follow next es (started firstNode transport natTransport natLocalPort m)) := by
  intro h
  apply h false 0 1 9000 {} [bootHandshake, .run .worker, .run .worker, .callStop, .run .stop, .run .worker,
    .run .stop]
  refine ⟨⟨.stop, by decide⟩, fun p _ => ?_⟩
  cases p <;> decide

end NatThreads
end XKad
