import XKad.NatManagers

/-!
# The NAT type a node finds

A node asks some boot nodes under which endpoint they see it. A boot node that sees it
at its own endpoint tells it that it is public; any other boot node starts handshakes
from a second port. Packets may be translated on every way, lost, duplicated and
reordered, and the threads of a node are interleaved at will. Only the node behind an
endpoint stays the same, so that an answer goes to the node that asked.
-/
namespace XKad

def NatHandshake.ping (h : NatHandshake) : NatPing where
  transport := h.transport
  message := {
    type :=
      if h.messageType = kKadNatDetectHandshake2Node then .kadNatDetectHandshake2Node
      else if h.messageType = kKadNatDetectHandshake2Boot then .kadNatDetectHandshake2Boot
      else .other
    hopNum := h.hopNum
    srcNodeId := h.srcNodeId
    desNodeId := h.desNodeId
    isRoot := h.isRoot }
  toIp := h.peerIp
  toPort := h.detectPort

namespace NatHandshakeManager

/-- All handshakes sent or to be sent are of a kind. -/
structure OnlySends (q : NatHandshake → Prop) (m : NatHandshakeManager) : Prop where
  structs : ∀ st ∈ m.structs, q st.doHandshake
  sent : ∀ e ∈ m.sent, q e.2

namespace OnlySends

variable {q q' : NatHandshake → Prop} {m : NatHandshakeManager}

theorem mono (h : OnlySends q m) (hq : ∀ g, q g → q' g) : OnlySends q' m :=
  ⟨fun st hst => hq _ (h.structs st hst), fun e he => hq _ (h.sent e he)⟩

theorem addDetection (h : OnlySends q m) {d : NatDetection} (hd : q d.struct.doHandshake) :
    OnlySends q (m.addDetection d) := by
  refine ⟨fun st hst => ?_, h.sent⟩
  rcases List.mem_append.mp hst with hst | hst
  · exact h.structs st hst
  · rw [List.mem_singleton.mp hst]
    exact hd

theorem doHandshake_detect (st : NatDetectStruct) : st.detect.1.doHandshake = st.doHandshake := by
  rw [NatDetectStruct.detect]
  split_ifs <;> rfl

theorem detectEntry (h : OnlySends q m) (key : Bytes) (ptr : ℕ) (rest : List (Bytes × ℕ)) :
    OnlySends q (m.detectEntry key ptr rest) := by
  rw [NatHandshakeManager.detectEntry]
  cases hptr : m.structs[ptr]? with
  | none => exact ⟨h.structs, h.sent⟩
  | some st =>
    have hst := h.structs st (List.mem_of_getElem? hptr)
    refine ⟨fun st' hst' => ?_, fun e he => ?_⟩
    · rcases List.mem_or_eq_of_mem_set hst' with hold | rfl
      · exact h.structs st' hold
      · rw [doHandshake_detect]
        exact hst
    · dsimp only at he
      split at he
      · rcases List.mem_append.mp he with he | he
        · exact h.sent e he
        · rw [List.mem_singleton.mp he]
          exact hst
      · exact h.sent e he

theorem detectProc (h : OnlySends q m) : OnlySends q m.detectProc := by
  rw [NatHandshakeManager.detectProc]
  split
  · exact ⟨h.structs, h.sent⟩
  · exact ⟨h.structs, h.sent⟩
  · exact h.detectEntry _ _ _
  · exact ⟨h.structs, h.sent⟩

end OnlySends
end NatHandshakeManager

namespace NatManager

/-- `SendNatDetectRequest`; `localIp` is the address of `nat_transport_`. -/
def sendNatDetectRequest (localIp : Bytes) (mid : UInt32) (peer : XPacket) (m : NatManager) : NatManager :=
  let message : NatMessage := {
    type := .kadNatDetectRequest
    id := mid
    isRoot := true
    data := .detectRequest {
      localIp := localIp
      localPort := ofPort m.natLocalPort } }
  { m with sent := m.sent ++ [⟨m.natTransport, message, peer.fromIp, peer.fromPort⟩] }

/-- `SendNatDetectFinish`. The handler does not look at the data. -/
def sendNatDetectFinish (mid : UInt32) (peer : XPacket) (m : NatManager) : NatManager :=
  let message : NatMessage := {
    type := .kadNatDetectFinish
    id := mid
    isRoot := true }
  { m with sent := m.sent ++ [⟨m.natTransport, message, peer.fromIp, peer.fromPort⟩] }

def pings (m : NatManager) : List NatPing :=
  m.sent ++ m.natHandshakeManager.sent.map (fun e => e.2.ping)

end NatManager

/-- Where a call of `MultiNatDetect` is: not made, past the test of `started_`, at the
next request, in the wait for `nat_type_`, at the next finish, or past its return. -/
inductive DetectCaller where
  | uncalled
  | testing (bootEndpoints : List XPacket)
  | requesting (bootEndpoints rest : List XPacket)
  | waiting (bootEndpoints : List XPacket)
  | finishing (rest : List XPacket)
  | returned (success : Bool)
  deriving DecidableEq

/-- The wait has ended with a NAT type, or there was one before. -/
def DetectCaller.succeeds : DetectCaller → Bool
  | .finishing _ => true
  | .returned success => success
  | _ => false

structure NatHost where
  threads : NatThreads
  caller : DetectCaller := .uncalled

namespace NatHost

/-- The call of `MultiNatDetect`, which waits while another party has `mutex_`. -/
def multiNatDetect (bootEndpoints : List XPacket) (h : NatHost) : NatHost :=
  if h.threads.owner ≠ none then h
  else if !h.threads.manager.started then { h with caller := .returned false }
  else { h with caller := .testing bootEndpoints }

def withManager (m : NatManager) (h : NatHost) : NatHost :=
  { h with threads := { h.threads with manager := m } }

/-- The next step of `MultiNatDetect`. The wait ends once the NAT type is known, or
after its time. -/
def advanceCaller (localIp : Bytes) (mid : UInt32) (h : NatHost) : NatHost :=
  match h.caller with
  | .uncalled => h
  | .testing bootEndpoints =>
    if h.threads.manager.natType ≠ kNatTypeUnknown then { h with caller := .returned true }
    else if bootEndpoints.isEmpty then { h with caller := .returned false }
    else { h with caller := .requesting bootEndpoints bootEndpoints }
  | .requesting bootEndpoints [] => { h with caller := .waiting bootEndpoints }
  | .requesting bootEndpoints (peer :: rest) =>
    { h.withManager (h.threads.manager.sendNatDetectRequest localIp mid peer) with
      caller := .requesting bootEndpoints rest }
  | .waiting bootEndpoints =>
    if h.threads.owner ≠ none then h
    else if h.threads.manager.natType ≠ kNatTypeUnknown then { h with caller := .finishing bootEndpoints }
    else { h with caller := .returned false }
  | .finishing [] => { h with caller := .returned true }
  | .finishing (peer :: rest) =>
    let m := h.threads.manager.sendNatDetectFinish mid peer
    let m := { m with
      natHandshakeManager := m.natHandshakeManager.removeDetection peer.fromIp peer.fromPort }
    { h.withManager m with caller := .finishing rest }
  | .returned _ => h

end NatHost

inductive NatAction where
  | callStop
  | timeout
  | run (p : NatParty)
  | detectProc
  | multiNatDetect (bootEndpoints : List XPacket)
  | advanceCaller (mid : UInt32)

def NatAction.step (localIp : Bytes) : NatAction → NatHost → NatHost
  | .callStop, h => { h with threads := NatThreads.next .callStop h.threads }
  | .timeout, h => { h with threads := NatThreads.next .timeout h.threads }
  | .run p, h => { h with threads := NatThreads.next (.run p) h.threads }
  | .detectProc, h =>
    let m := h.threads.manager
    h.withManager { m with natHandshakeManager := m.natHandshakeManager.detectProc }
  | .multiNatDetect bootEndpoints, h => h.multiNatDetect bootEndpoints
  | .advanceCaller mid, h => h.advanceCaller localIp mid

/-- The nodes with the arguments of their `Start`, the endpoints of their
`nat_transport_`, and the one node that every endpoint belongs to, for sending and for
receiving. -/
structure NatDeployment (ι : Type) where
  firstNode : ι → Bool
  localIp : ι → Bytes
  natLocalPort : ι → UInt16
  home : XPacket → Option ι

/-- The nodes, and under which endpoints requests of a node arrived somewhere; the
latter is only there to be stated. -/
structure NatNetwork (ι : Type) where
  host : ι → NatHost
  seen : List (ι × XPacket)

namespace NatDeployment

variable {ι : Type} (D : NatDeployment ι)

/-- The endpoint a node takes for its own. -/
def endpoint (i : ι) : XPacket := ⟨D.localIp i, D.natLocalPort i⟩

def start : NatNetwork ι where
  host i := { threads := NatThreads.started (D.firstNode i) 0 1 (D.natLocalPort i) {} }
  seen := []

end NatDeployment

section Runs
variable {ι : Type} [DecidableEq ι]

namespace NatNetwork

def act (D : NatDeployment ι) (i : ι) (a : NatAction) (N : NatNetwork ι) : NatNetwork ι :=
  { N with host := Function.update N.host i (a.step (D.localIp i) (N.host i)) }

/-- A message of node `k` arrives at node `i`. -/
def deliver (k i : ι) (message : NatMessage) (packet : XPacket) (N : NatNetwork ι) : NatNetwork ι where
  host := Function.update N.host i
    { N.host i with threads := NatThreads.next (.pushMessage message packet) (N.host i).threads }
  seen := if message.type = .kadNatDetectRequest then (k, packet) :: N.seen else N.seen

end NatNetwork

/-- The steps of the network. A ping once sent may arrive at any time and any number of
times at the node behind its endpoint, with any source endpoint that is its sender's. -/
inductive NatNetworkStep (D : NatDeployment ι) (N : NatNetwork ι) : NatNetwork ι → Prop where
  | act (i : ι) (a : NatAction) : NatNetworkStep D N (N.act D i a)
  | deliver (k i : ι) {p : NatPing} (hp : p ∈ (N.host k).threads.manager.pings)
      (hi : D.home ⟨p.toIp, p.toPort⟩ = some i) (packet : XPacket) (hk : D.home packet = some k) :
      NatNetworkStep D N (N.deliver k i p.message packet)

end Runs

section Verdicts
variable {ι : Type} (D : NatDeployment ι) (seen : List (ι × XPacket)) (i : ι)

def Untranslated : Prop := (i, D.endpoint i) ∈ seen

def Translated : Prop := ∃ e, (i, e) ∈ seen ∧ e ≠ D.endpoint i

/-- The NAT type is one that the requests of the node bear out. -/
def Fits (natType : Int32) : Prop :=
  natType = kNatTypePublic ∧ Untranslated D seen i ∨
    (natType = kNatTypeConeNormal ∨ natType = kNatTypeConeAbnormal) ∧ Translated D seen i

/-- What a message that arrived at the node says is true. -/
structure Told (message : NatMessage) (packet : XPacket) : Prop where
  request : message.type = .kadNatDetectRequest → ∀ r, message.data = .detectRequest r →
    ∃ k, (k, packet) ∈ seen ∧ r = ⟨D.localIp k, ofPort (D.natLocalPort k)⟩
  response : message.type = .kadNatDetectResponse → ∀ r, message.data = .detectResponse r →
    if r.natType = kNatTypePublic then Untranslated D seen i else Translated D seen i
  handshake : message.type = .kadNatDetectHandshake2Node → Translated D seen i

/-- A handshake from the second port goes to an endpoint that is not its node's own. -/
def ForTranslated (h : NatHandshake) : Prop :=
  h.messageType = kKadNatDetectHandshake2Node →
    ∃ k, (k, ⟨h.peerIp, h.detectPort⟩) ∈ seen ∧ (⟨h.peerIp, h.detectPort⟩ : XPacket) ≠ D.endpoint k

/-- What the node has sent will be true where it arrives. -/
structure Truthful (p : NatPing) : Prop where
  request : p.message.type = .kadNatDetectRequest →
    p.message.data = .detectRequest ⟨D.localIp i, ofPort (D.natLocalPort i)⟩
  response : p.message.type = .kadNatDetectResponse → ∀ r, p.message.data = .detectResponse r →
    ∃ k, (k, ⟨p.toIp, p.toPort⟩) ∈ seen ∧ (r.natType = kNatTypePublic ↔ (⟨p.toIp, p.toPort⟩ : XPacket) = D.endpoint k)
  handshake : p.message.type ≠ .kadNatDetectHandshake2Node

/-- What holds of the manager of a node in every run. -/
structure ManagerSound (m : NatManager) : Prop where
  port : m.natLocalPort = D.natLocalPort i
  queue : ∀ e ∈ m.messageQueue, Told D seen i e.1 e.2
  timer : m.timer = true → Translated D seen i
  sent : ∀ p ∈ m.sent, Truthful D seen i p
  handshakes : m.natHandshakeManager.OnlySends (ForTranslated D seen)
  verdict : D.firstNode i = true ∧ m.natType = kNatTypePublic ∨
    D.firstNode i = false ∧ (m.natType = kNatTypeUnknown ∨ Fits D seen i m.natType)

/-- What holds of the threads of a node in every run. -/
structure ThreadsSound (s : NatThreads) : Prop where
  manager : ManagerSound D seen i s.manager
  handling : ∀ message packet, s.worker = .handling message packet → Told D seen i message packet
  setting : ∀ natType, s.worker = .setting natType ∨ s.worker = .settingLocked natType → Fits D seen i natType
  timer : s.timer ≠ .waiting → Translated D seen i

end Verdicts

section Hosts
variable {ι : Type} {D : NatDeployment ι} {seen seen' : List (ι × XPacket)} {i : ι}

theorem Translated.mono (h : Translated D seen i) (hs : seen ⊆ seen') : Translated D seen' i := by
  obtain ⟨e, he, hne⟩ := h
  exact ⟨e, hs he, hne⟩

theorem Fits.mono {natType : Int32} (h : Fits D seen i natType) (hs : seen ⊆ seen') : Fits D seen' i natType := by
  apply h.imp
  · exact And.imp_right (fun hin => hs hin)
  · exact And.imp_right (fun ht => ht.mono hs)

theorem Told.mono {message : NatMessage} {packet : XPacket} (h : Told D seen i message packet) (hs : seen ⊆ seen') :
    Told D seen' i message packet where
  request ht r hr := by
    obtain ⟨k, hk, heq⟩ := h.request ht r hr
    exact ⟨k, hs hk, heq⟩
  response ht r hr := by
    have htold := h.response ht r hr
    split_ifs at htold ⊢
    · exact hs htold
    · exact htold.mono hs
  handshake ht := (h.handshake ht).mono hs

theorem ForTranslated.mono {g : NatHandshake} (h : ForTranslated D seen g) (hs : seen ⊆ seen') :
    ForTranslated D seen' g := by
  intro ht
  obtain ⟨k, hk, hne⟩ := h ht
  exact ⟨k, hs hk, hne⟩

theorem Truthful.mono {p : NatPing} (h : Truthful D seen i p) (hs : seen ⊆ seen') : Truthful D seen' i p where
  request := h.request
  response ht r hr := by
    obtain ⟨k, hk, hiff⟩ := h.response ht r hr
    exact ⟨k, hs hk, hiff⟩
  handshake := h.handshake

theorem ManagerSound.mono {m : NatManager} (h : ManagerSound D seen i m) (hs : seen ⊆ seen') :
    ManagerSound D seen' i m where
  port := h.port
  queue e he := (h.queue e he).mono hs
  timer ht := (h.timer ht).mono hs
  sent p hp := (h.sent p hp).mono hs
  handshakes := h.handshakes.mono (fun _ hg => hg.mono hs)
  verdict := h.verdict.imp_right (And.imp_right (Or.imp_right (fun hf => hf.mono hs)))

theorem ThreadsSound.mono {s : NatThreads} (h : ThreadsSound D seen i s) (hs : seen ⊆ seen') :
    ThreadsSound D seen' i s where
  manager := h.manager.mono hs
  handling message packet hw := (h.handling message packet hw).mono hs
  setting natType hw := (h.setting natType hw).mono hs
  timer ht := (h.timer ht).mono hs

namespace ManagerSound

variable {m : NatManager} (h : ManagerSound D seen i m)

include h

theorem addDetection {d : NatDetection} (hd : ForTranslated D seen d.struct.doHandshake) :
    ManagerSound D seen i (m.addDetection d) :=
  ⟨h.port, h.queue, h.timer, h.sent, h.handshakes.addDetection hd, h.verdict⟩

theorem removeDetection (ip : Bytes) (port : UInt16) :
    ManagerSound D seen i { m with natHandshakeManager := m.natHandshakeManager.removeDetection ip port } :=
  ⟨h.port, h.queue, h.timer, h.sent, ⟨h.handshakes.structs, h.handshakes.sent⟩, h.verdict⟩

theorem send {p : NatPing} (hp : Truthful D seen i p) : ManagerSound D seen i { m with sent := m.sent ++ [p] } := by
  refine ⟨h.port, h.queue, h.timer, fun q hq => ?_, h.handshakes, h.verdict⟩
  rcases List.mem_append.mp hq with hq | hq
  · exact h.sent q hq
  · rw [List.mem_singleton.mp hq]
    exact hp

theorem sendNatDetectRequest (mid : UInt32) (peer : XPacket) :
    ManagerSound D seen i (m.sendNatDetectRequest (D.localIp i) mid peer) := by
  apply h.send
  refine ⟨fun _ => ?_, nofun, nofun⟩
  rw [← h.port]

theorem sendNatDetectFinish (mid : UInt32) (peer : XPacket) :
    ManagerSound D seen i (m.sendNatDetectFinish mid peer) := by
  apply h.send
  exact ⟨nofun, nofun, nofun⟩

theorem handleNatDetectRequest {message : NatMessage} {packet : XPacket} (ht : Told D seen i message packet)
    (htype : message.type = .kadNatDetectRequest) :
    ManagerSound D seen i (m.handleNatDetectRequest message packet) := by
  rw [NatManager.handleNatDetectRequest]
  cases hdata : message.data with
  | detectRequest r =>
    obtain ⟨k, hk, rfl⟩ := ht.request htype r hdata
    have hown : (D.localIp k = packet.fromIp ∧ ofPort (D.natLocalPort k) = ofPort packet.fromPort) ↔
        packet = D.endpoint k := by
      constructor
      · rintro ⟨hip, hport⟩
        have hsame := congrArg toPort hport
        rw [toPort_ofPort, toPort_ofPort] at hsame
        rw [NatDeployment.endpoint, hip, hsame]
      · intro heq
        rw [heq]
        exact ⟨rfl, rfl⟩
    dsimp only
    split_ifs with hpublic
    · apply h.send
      refine ⟨nofun, fun _ r hr => ⟨k, hk, ?_⟩, nofun⟩
      obtain rfl := NatData.detectResponse.inj hr
      exact ⟨fun _ => hown.mp hpublic, fun _ => rfl⟩
    · have hother : packet ≠ D.endpoint k := fun heq => hpublic (hown.mpr heq)
      apply addDetection
      · apply h.send
        refine ⟨nofun, fun _ r hr => ⟨k, hk, ?_⟩, nofun⟩
        obtain rfl := NatData.detectResponse.inj hr
        exact ⟨fun heq => absurd heq (show kNatTypeUnknown ≠ kNatTypePublic by decide), fun heq => absurd heq hother⟩
      · exact fun _ => ⟨k, hk, hother⟩
  | _ => exact h

theorem handleNatDetectResponse {message : NatMessage} {packet : XPacket} (ht : Told D seen i message packet)
    (htype : message.type = .kadNatDetectResponse) :
    ManagerSound D seen i (m.handleNatDetectResponse message packet).1 ∧
      ∀ natType, (m.handleNatDetectResponse message packet).2 = some natType → Fits D seen i natType := by
  rw [NatManager.handleNatDetectResponse]
  cases hdata : message.data with
  | detectResponse r =>
    have htold := ht.response htype r hdata
    dsimp only
    split_ifs at htold ⊢ with hpublic
    · refine ⟨h, fun natType hset => ?_⟩
      obtain rfl := Option.some.inj hset
      exact Or.inl ⟨rfl, htold⟩
    · have hadded := h.addDetection (d := {
        ip := packet.fromIp
        port := packet.fromPort
        transport := m.natTransport
        detectPort := toPort r.detectPort
        messageType := kKadNatDetectHandshake2Boot
        delayMs := 500 })
        (fun heq => absurd heq (show kKadNatDetectHandshake2Boot ≠ kKadNatDetectHandshake2Node by decide))
      exact ⟨⟨hadded.port, hadded.queue, fun _ => htold, hadded.sent, hadded.handshakes, hadded.verdict⟩, nofun⟩
  | _ => exact ⟨h, nofun⟩

/-- A handled message says what is true, and sets a NAT type that fits. -/
theorem handle {message : NatMessage} {packet : XPacket} (ht : Told D seen i message packet) :
    ManagerSound D seen i (m.handle message packet).1 ∧
      ∀ natType, (m.handle message packet).2 = some natType → Fits D seen i natType := by
  rw [NatManager.handle]
  cases htype : message.type with
  | kadNatDetectRequest => exact ⟨h.handleNatDetectRequest ht htype, nofun⟩
  | kadNatDetectResponse => exact h.handleNatDetectResponse ht htype
  | kadNatDetectHandshake2Node =>
    refine ⟨h, fun natType hset => ?_⟩
    obtain rfl := Option.some.inj hset
    exact Or.inr ⟨Or.inl rfl, ht.handshake htype⟩
  | kadNatDetectHandshake2Boot => exact ⟨h, nofun⟩
  | kadNatDetectFinish => exact ⟨h.removeDetection _ _, nofun⟩
  | other => exact ⟨h, nofun⟩

theorem setNatTypeAndNotify {natType : Int32} (hf : Fits D seen i natType) :
    ManagerSound D seen i (m.setNatTypeAndNotify natType) := by
  rw [NatManager.setNatTypeAndNotify]
  split_ifs with hset
  · exact h
  · refine ⟨h.port, h.queue, h.timer, h.sent, h.handshakes, ?_⟩
    rcases h.verdict with ⟨_, hpublic⟩ | ⟨hfirst, _⟩
    · exact absurd (by rw [hpublic]; decide) hset
    · exact Or.inr ⟨hfirst, Or.inr hf⟩

theorem detectProc :
    ManagerSound D seen i { m with natHandshakeManager := m.natHandshakeManager.detectProc } :=
  ⟨h.port, h.queue, h.timer, h.sent, h.handshakes.detectProc, h.verdict⟩

theorem pushMessage {message : NatMessage} {packet : XPacket} (ht : Told D seen i message packet) :
    ManagerSound D seen i (m.pushMessage message packet) := by
  rw [NatManager.pushMessage]
  split_ifs
  · exact h
  · refine ⟨h.port, fun e he => ?_, h.timer, h.sent, h.handshakes, h.verdict⟩
    rcases List.mem_append.mp he with he | he
    · exact h.queue e he
    · rw [List.mem_singleton.mp he]
      exact ht

end ManagerSound

namespace ThreadsSound

variable {s s' : NatThreads} (h : ThreadsSound D seen i s)

include h

theorem withManager {m : NatManager} (hm : ManagerSound D seen i m) :
    ThreadsSound D seen i { s with manager := m } :=
  ⟨hm, h.handling, h.setting, h.timer⟩

omit h in
theorem of_idle (hm : ManagerSound D seen i s.manager)
    (hworker : s.worker = .testing ∨ s.worker = .fetching ∨ s.worker = .exited)
    (htimer : s.timer ≠ .waiting → Translated D seen i) : ThreadsSound D seen i s := by
  refine ⟨hm, ?_, ?_, htimer⟩
  · intro message packet hw
    rcases hworker with hidle | hidle | hidle <;> rw [hidle] at hw <;> cases hw
  · intro natType hw
    rcases hworker with hidle | hidle | hidle <;> rw [hidle] at hw <;> rcases hw with hw | hw <;> cases hw

theorem advanceWorker (hs : s.advanceWorker = some s') : ThreadsSound D seen i s' := by
  obtain ⟨manager, owner, worker, stop, timer⟩ := s
  have hm : ManagerSound D seen i manager := h.manager
  cases worker with
  | testing =>
    obtain rfl := Option.some.inj hs
    cases manager.threadDestroy with
    | false => exact of_idle hm (Or.inr (Or.inl rfl)) h.timer
    | true => exact of_idle hm (Or.inr (Or.inr rfl)) h.timer
  | fetching =>
    cases hqueue : manager.messageQueue with
    | nil =>
      simp only [NatThreads.advanceWorker, hqueue, Option.some.injEq] at hs
      subst hs
      exact of_idle hm (Or.inl rfl) h.timer
    | cons e rest =>
      simp only [NatThreads.advanceWorker, hqueue, Option.some.injEq] at hs
      subst hs
      have hall := hm.queue
      rw [hqueue] at hall
      refine ⟨⟨hm.port, fun e' he => hall e' (List.mem_cons_of_mem _ he), hm.timer, hm.sent, hm.handshakes,
        hm.verdict⟩, fun message packet hw => ?_, fun natType hw => ?_, h.timer⟩
      · obtain ⟨rfl, rfl⟩ := WorkerPoint.handling.inj hw
        exact hall e List.mem_cons_self
      · rcases hw with hw | hw <;> cases hw
  | handling message packet =>
    obtain rfl := Option.some.inj hs
    obtain ⟨hhandled, hset⟩ := hm.handle (h.handling message packet rfl)
    cases hsets : (manager.handle message packet).2 with
    | none => exact of_idle hhandled (Or.inl rfl) h.timer
    | some natType =>
      refine ⟨hhandled, fun message' packet' hw => ?_, fun natType' hw => ?_, h.timer⟩
      · cases hw
      · rcases hw with hw | hw
        · obtain rfl := WorkerPoint.setting.inj hw
          exact hset natType hsets
        · cases hw
  | setting natType =>
    simp only [NatThreads.advanceWorker] at hs
    split_ifs at hs
    obtain rfl := Option.some.inj hs
    refine ⟨hm, fun message packet hw => ?_, fun natType' hw => ?_, h.timer⟩
    · cases hw
    · rcases hw with hw | hw
      · cases hw
      · obtain rfl := WorkerPoint.settingLocked.inj hw
        exact h.setting natType (Or.inl rfl)
  | settingLocked natType =>
    obtain rfl := Option.some.inj hs
    have hset := hm.setNatTypeAndNotify (h.setting natType (Or.inr rfl))
    exact of_idle hset (Or.inl rfl) h.timer
  | exited => cases hs

theorem advanceStop (hs : s.advanceStop = some s') : ThreadsSound D seen i s' := by
  obtain ⟨manager, owner, worker, stop, timer⟩ := s
  have hm : ManagerSound D seen i manager := h.manager
  have hstop (destroy stopped thread : Bool) : ManagerSound D seen i
      { manager with threadDestroy := destroy, stopped := stopped, thread := thread } :=
    ⟨hm.port, hm.queue, hm.timer, hm.sent, hm.handshakes, hm.verdict⟩
  simp only [NatThreads.advanceStop] at hs
  split at hs
  · cases hs
  · split_ifs at hs
    obtain rfl := Option.some.inj hs
    exact ⟨hm, h.handling, h.setting, h.timer⟩
  · split_ifs at hs <;> obtain rfl := Option.some.inj hs
    · exact ⟨hm, h.handling, h.setting, h.timer⟩
    · exact ⟨hstop _ _ _, h.handling, h.setting, h.timer⟩
    · exact ⟨hm, h.handling, h.setting, h.timer⟩
  · split_ifs at hs
    obtain rfl := Option.some.inj hs
    exact ⟨hstop _ _ _, h.handling, h.setting, h.timer⟩
  · obtain rfl := Option.some.inj hs
    exact ⟨hstop _ _ _, h.handling, h.setting, h.timer⟩
  · cases hs

/-- The timer expires only after an answer that the node is not public. -/
theorem advanceTimer (hs : s.advanceTimer = some s') : ThreadsSound D seen i s' := by
  obtain ⟨manager, owner, worker, stop, timer⟩ := s
  cases timer with
  | waiting => cases hs
  | setting =>
    simp only [NatThreads.advanceTimer] at hs
    split_ifs at hs
    obtain rfl := Option.some.inj hs
    have htranslated : Translated D seen i := h.timer (by simp)
    exact ⟨h.manager, h.handling, h.setting, fun _ => htranslated⟩
  | settingLocked =>
    obtain rfl := Option.some.inj hs
    have htranslated : Translated D seen i := h.timer (by simp)
    refine ⟨h.manager.setNatTypeAndNotify (Or.inr ⟨Or.inr rfl, htranslated⟩), h.handling, h.setting, ?_⟩
    exact fun hw => absurd rfl hw

theorem run (p : NatParty) : ThreadsSound D seen i (NatThreads.next (.run p) s) := by
  dsimp only [NatThreads.next]
  cases hs : NatThreads.advance p s with
  | none => exact h
  | some s' =>
    cases p with
    | worker => exact h.advanceWorker hs
    | stop => exact h.advanceStop hs
    | timer => exact h.advanceTimer hs

theorem timeout : ThreadsSound D seen i (NatThreads.next .timeout s) := by
  dsimp only [NatThreads.next]
  split_ifs with hexpires
  · have hm := h.manager
    refine ⟨⟨hm.port, hm.queue, nofun, hm.sent, hm.handshakes, hm.verdict⟩, h.handling, h.setting, fun _ => ?_⟩
    exact hm.timer hexpires.1
  · exact h

theorem callStop : ThreadsSound D seen i (NatThreads.next .callStop s) := by
  dsimp only [NatThreads.next]
  split_ifs
  · exact ⟨h.manager, h.handling, h.setting, h.timer⟩
  · exact h

theorem action (a : NatAction) {g : NatHost} (hg : g.threads = s) :
    ThreadsSound D seen i (a.step (D.localIp i) g).threads := by
  obtain ⟨threads, caller⟩ := g
  obtain rfl : threads = s := hg
  cases a with
  | callStop => exact h.callStop
  | timeout => exact h.timeout
  | run p => exact h.run p
  | detectProc => exact h.withManager h.manager.detectProc
  | multiNatDetect bootEndpoints =>
    dsimp only [NatAction.step, NatHost.multiNatDetect]
    split_ifs <;> exact h
  | advanceCaller mid =>
    dsimp only [NatAction.step, NatHost.advanceCaller]
    split
    · exact h
    · split_ifs <;> exact h
    · exact h
    · exact h.withManager (h.manager.sendNatDetectRequest mid _)
    · split_ifs <;> exact h
    · exact h
    · exact h.withManager ((h.manager.sendNatDetectFinish mid _).removeDetection _ _)
    · exact h

end ThreadsSound
/-- A NAT type that was set stays. -/
def KeepsVerdict (m m' : NatManager) : Prop := m.natType ≠ kNatTypeUnknown → m'.natType = m.natType

section Kept
variable {s s' : NatThreads}

theorem handle_natType (message : NatMessage) (packet : XPacket) (m : NatManager) :
    (m.handle message packet).1.natType = m.natType := by
  rw [NatManager.handle]
  split
  · rw [NatManager.handleNatDetectRequest]
    split
    · dsimp only
      split_ifs <;> rfl
    · rfl
  · rw [NatManager.handleNatDetectResponse]
    split
    · split_ifs <;> rfl
    · rfl
  all_goals rfl

theorem keepsVerdict_setNatTypeAndNotify (natType : Int32) (m : NatManager) :
    KeepsVerdict m (m.setNatTypeAndNotify natType) := by
  intro hset
  rw [NatManager.setNatTypeAndNotify, if_pos hset]

theorem keepsVerdict_advanceWorker (hs : s.advanceWorker = some s') : KeepsVerdict s.manager s'.manager := by
  obtain ⟨manager, owner, worker, stop, timer⟩ := s
  simp only [NatThreads.advanceWorker] at hs
  split at hs
  · obtain rfl := Option.some.inj hs
    exact fun _ => rfl
  · split at hs <;> obtain rfl := Option.some.inj hs <;> exact fun _ => rfl
  · obtain rfl := Option.some.inj hs
    exact fun _ => handle_natType _ _ manager
  · split_ifs at hs
    obtain rfl := Option.some.inj hs
    exact fun _ => rfl
  · obtain rfl := Option.some.inj hs
    exact keepsVerdict_setNatTypeAndNotify _ manager
  · cases hs

theorem keepsVerdict_advanceStop (hs : s.advanceStop = some s') : KeepsVerdict s.manager s'.manager := by
  obtain ⟨manager, owner, worker, stop, timer⟩ := s
  simp only [NatThreads.advanceStop] at hs
  split at hs
  · cases hs
  · split_ifs at hs
    obtain rfl := Option.some.inj hs
    exact fun _ => rfl
  · split_ifs at hs <;> obtain rfl := Option.some.inj hs <;> exact fun _ => rfl
  · split_ifs at hs
    obtain rfl := Option.some.inj hs
    exact fun _ => rfl
  · obtain rfl := Option.some.inj hs
    exact fun _ => rfl
  · cases hs

theorem keepsVerdict_advanceTimer (hs : s.advanceTimer = some s') : KeepsVerdict s.manager s'.manager := by
  obtain ⟨manager, owner, worker, stop, timer⟩ := s
  simp only [NatThreads.advanceTimer] at hs
  split at hs
  · cases hs
  · split_ifs at hs
    obtain rfl := Option.some.inj hs
    exact fun _ => rfl
  · obtain rfl := Option.some.inj hs
    exact keepsVerdict_setNatTypeAndNotify _ manager

theorem keepsVerdict_next (e : NatEvent) (s : NatThreads) :
    KeepsVerdict s.manager (NatThreads.next e s).manager := by
  cases e with
  | pushMessage message packet =>
    dsimp only [NatThreads.next, NatManager.pushMessage]
    split_ifs <;> exact fun _ => rfl
  | callStop =>
    dsimp only [NatThreads.next]
    split_ifs <;> exact fun _ => rfl
  | timeout =>
    dsimp only [NatThreads.next]
    split_ifs <;> exact fun _ => rfl
  | run p =>
    dsimp only [NatThreads.next]
    cases hs : NatThreads.advance p s with
    | none => exact fun _ => rfl
    | some s' =>
      cases p with
      | worker => exact keepsVerdict_advanceWorker hs
      | stop => exact keepsVerdict_advanceStop hs
      | timer => exact keepsVerdict_advanceTimer hs

theorem keepsVerdict_action (localIp : Bytes) (a : NatAction) (h : NatHost) :
    KeepsVerdict h.threads.manager (a.step localIp h).threads.manager := by
  cases a with
  | callStop => exact keepsVerdict_next .callStop h.threads
  | timeout => exact keepsVerdict_next .timeout h.threads
  | run p => exact keepsVerdict_next (.run p) h.threads
  | detectProc => exact fun _ => rfl
  | multiNatDetect bootEndpoints =>
    dsimp only [NatAction.step, NatHost.multiNatDetect]
    split_ifs <;> exact fun _ => rfl
  | advanceCaller mid =>
    dsimp only [NatAction.step, NatHost.advanceCaller]
    split
    · exact fun _ => rfl
    · split_ifs <;> exact fun _ => rfl
    · exact fun _ => rfl
    · exact fun _ => rfl
    · split_ifs <;> exact fun _ => rfl
    · exact fun _ => rfl
    · exact fun _ => rfl
    · exact fun _ => rfl

end Kept

/-- A call of `MultiNatDetect` that succeeds or sends its finishes has found a NAT type. -/
def CallerSound (h : NatHost) : Prop :=
  h.caller.succeeds = true → h.threads.manager.natType ≠ kNatTypeUnknown

theorem CallerSound.action {h : NatHost} (hc : CallerSound h) (localIp : Bytes) (a : NatAction) :
    CallerSound (a.step localIp h) := by
  have hsame (heq : (a.step localIp h).caller = h.caller) : CallerSound (a.step localIp h) := by
    intro hend
    rw [heq] at hend
    rw [keepsVerdict_action localIp a h (hc hend)]
    exact hc hend
  cases a with
  | callStop => exact hsame rfl
  | timeout => exact hsame rfl
  | run p => exact hsame rfl
  | detectProc => exact hsame rfl
  | multiNatDetect bootEndpoints =>
    dsimp only [NatAction.step, NatHost.multiNatDetect]
    split_ifs
    · exact hc
    · exact nofun
    · exact nofun
  | advanceCaller mid =>
    obtain ⟨threads, caller⟩ := h
    dsimp only [NatAction.step, NatHost.advanceCaller]
    cases caller with
    | uncalled => exact hc
    | testing bootEndpoints =>
      dsimp only
      split_ifs with hset hempty
      · exact fun _ => hset
      · exact nofun
      · exact nofun
    | requesting bootEndpoints rest =>
      cases rest with
      | nil => exact nofun
      | cons peer rest => exact nofun
    | waiting bootEndpoints =>
      dsimp only
      split_ifs with hlocked hset
      · exact hc
      · exact fun _ => hset
      · exact nofun
    | finishing rest =>
      cases rest with
      | nil => exact fun _ => hc rfl
      | cons peer rest => exact fun _ => hc rfl
    | returned success => exact hc

theorem CallerSound.push {h : NatHost} (hc : CallerSound h) (message : NatMessage) (packet : XPacket) :
    CallerSound { h with threads := NatThreads.next (.pushMessage message packet) h.threads } := by
  intro hend
  rw [keepsVerdict_next (.pushMessage message packet) h.threads (hc hend)]
  exact hc hend

end Hosts

/-- What holds of the network in every run. -/
structure NatNetworkSound {ι : Type} (D : NatDeployment ι) (N : NatNetwork ι) : Prop where
  home : ∀ e ∈ N.seen, D.home e.2 = some e.1
  threads : ∀ i, ThreadsSound D N.seen i (N.host i).threads
  caller : ∀ i, CallerSound (N.host i)

namespace NatNetworkSound

variable {ι : Type} {D : NatDeployment ι} {N N' : NatNetwork ι}

theorem start (D : NatDeployment ι) : NatNetworkSound D D.start where
  home e he := by cases he
  threads i := by
    refine ⟨⟨rfl, nofun, nofun, nofun, ⟨nofun, nofun⟩, ?_⟩, nofun, nofun, fun hw => absurd rfl hw⟩
    cases hfirst : D.firstNode i with
    | true => exact Or.inl ⟨rfl, by simp [NatDeployment.start, NatThreads.started, NatManager.start, hfirst]⟩
    | false => exact Or.inr ⟨rfl, Or.inl (by simp [NatDeployment.start, NatThreads.started, NatManager.start, hfirst])⟩
  caller i := nofun

/-- What was sent is true where it arrives, as the endpoint belongs to the node that asked. -/
theorem told (h : NatNetworkSound D N) {k i : ι} {p : NatPing} (hp : p ∈ (N.host k).threads.manager.pings)
    (hi : D.home ⟨p.toIp, p.toPort⟩ = some i) {packet : XPacket} {seen : List (ι × XPacket)}
    (hs : N.seen ⊆ seen) (hseen : p.message.type = .kadNatDetectRequest → (k, packet) ∈ seen) :
    Told D seen i p.message packet := by
  have hm := (h.threads k).manager
  have howner {j : ι} {e : XPacket} (he : (j, e) ∈ N.seen) (hdes : (⟨p.toIp, p.toPort⟩ : XPacket) = e) : j = i := by
    have hj := h.home _ he
    rw [← hdes, hi] at hj
    exact (Option.some.inj hj).symm
  rcases List.mem_append.mp hp with hp | hp
  · have htrue := hm.sent p hp
    refine ⟨fun htype r hr => ⟨k, hseen htype, ?_⟩, fun htype r hr => ?_, fun htype => absurd htype htrue.handshake⟩
    · rw [htrue.request htype] at hr
      exact (NatData.detectRequest.inj hr).symm
    · obtain ⟨j, hj, hiff⟩ := htrue.response htype r hr
      obtain rfl := howner hj rfl
      split_ifs with hpublic
      · rw [Untranslated, ← hiff.mp hpublic]
        exact hs hj
      · exact ⟨_, hs hj, fun heq => hpublic (hiff.mpr heq)⟩
  · obtain ⟨e, he, rfl⟩ := List.mem_map.mp hp
    have hkind := hm.handshakes.sent e he
    have hnone : e.2.ping.message.data = .malformed := rfl
    refine ⟨fun _ r hr => ?_, fun _ r hr => ?_, fun htype => ?_⟩
    · rw [hnone] at hr
      cases hr
    · rw [hnone] at hr
      cases hr
    · have hmessage : e.2.messageType = kKadNatDetectHandshake2Node := by
        by_contra hother
        dsimp only [NatHandshake.ping] at htype
        rw [if_neg hother] at htype
        split_ifs at htype
      obtain ⟨j, hj, hne⟩ := hkind hmessage
      obtain rfl := howner hj rfl
      exact ⟨_, hs hj, hne⟩

variable [DecidableEq ι]

theorem act (h : NatNetworkSound D N) (i : ι) (a : NatAction) : NatNetworkSound D (N.act D i a) := by
  refine ⟨h.home, fun j => ?_, fun j => ?_⟩
  · by_cases hj : j = i
    · subst hj
      simp only [NatNetwork.act, Function.update_self]
      exact (h.threads j).action a rfl
    · simp only [NatNetwork.act, Function.update_of_ne hj]
      exact h.threads j
  · by_cases hj : j = i
    · subst hj
      simp only [NatNetwork.act, Function.update_self]
      exact (h.caller j).action _ a
    · simp only [NatNetwork.act, Function.update_of_ne hj]
      exact h.caller j

theorem deliver (h : NatNetworkSound D N) {k i : ι} {p : NatPing} (hp : p ∈ (N.host k).threads.manager.pings)
    (hi : D.home ⟨p.toIp, p.toPort⟩ = some i) {packet : XPacket} (hk : D.home packet = some k) :
    NatNetworkSound D (N.deliver k i p.message packet) := by
  have hs : N.seen ⊆ (N.deliver k i p.message packet).seen := by
    dsimp only [NatNetwork.deliver]
    split_ifs
    · exact List.subset_cons_self _ _
    · exact List.Subset.refl _
  have htold : Told D (N.deliver k i p.message packet).seen i p.message packet := by
    apply h.told hp hi hs
    intro htype
    dsimp only [NatNetwork.deliver]
    rw [if_pos htype]
    exact List.mem_cons_self
  refine ⟨fun e he => ?_, fun j => ?_, fun j => ?_⟩
  · dsimp only [NatNetwork.deliver] at he
    split_ifs at he
    · rcases List.mem_cons.mp he with rfl | he
      · exact hk
      · exact h.home e he
    · exact h.home e he
  · have hj := (h.threads j).mono hs
    by_cases heq : j = i
    · subst heq
      simp only [NatNetwork.deliver, Function.update_self]
      exact hj.withManager (hj.manager.pushMessage htold)
    · simp only [NatNetwork.deliver, Function.update_of_ne heq]
      exact hj
  · by_cases heq : j = i
    · subst heq
      simp only [NatNetwork.deliver, Function.update_self]
      exact (h.caller j).push p.message packet
    · simp only [NatNetwork.deliver, Function.update_of_ne heq]
      exact h.caller j

theorem step (h : NatNetworkSound D N) (hstep : NatNetworkStep D N N') : NatNetworkSound D N' := by
  cases hstep with
  | act i a => exact h.act i a
  | deliver k i hp hi packet hk => exact h.deliver hp hi hk

theorem run (h : NatNetworkSound D N) (hsteps : Relation.ReflTransGen (NatNetworkStep D) N N') :
    NatNetworkSound D N' := by
  induction hsteps with
  | refl => exact h
  | tail _ hstep ih => exact ih.step hstep

end NatNetworkSound

section Runs
variable {ι : Type} [DecidableEq ι] {D : NatDeployment ι} {N N' : NatNetwork ι}

theorem keepsVerdict_run (hsteps : Relation.ReflTransGen (NatNetworkStep D) N N') (i : ι) :
    KeepsVerdict (N.host i).threads.manager (N'.host i).threads.manager := by
  induction hsteps with
  | refl => exact fun _ => rfl
  | @tail M M' _ hstep ih =>
    have hone : KeepsVerdict (M.host i).threads.manager (M'.host i).threads.manager := by
      cases hstep with
      | act j a =>
        by_cases hi : i = j
        · subst hi
          simp only [NatNetwork.act, Function.update_self]
          exact keepsVerdict_action _ a _
        · simp only [NatNetwork.act, Function.update_of_ne hi]
          exact fun _ => rfl
      | @deliver k j p _ _ packet _ =>
        by_cases hi : i = j
        · subst hi
          simp only [NatNetwork.deliver, Function.update_self]
          exact keepsVerdict_next (.pushMessage p.message packet) _
        · simp only [NatNetwork.deliver, Function.update_of_ne hi]
          exact fun _ => rfl
    intro hset
    have hmid := ih hset
    rw [← hmid] at hset ⊢
    exact hone hset

/-- In every run a node that is not the first has no NAT type, or it is public and some
node has seen it at its own endpoint, or it is of a cone type and some node has seen it
at another endpoint. The NAT type never changes once set, and it is set when a call of
`MultiNatDetect` has succeeded. -/
theorem natDetection_sound (h : Relation.ReflTransGen (NatNetworkStep D) D.start N)
    (h' : Relation.ReflTransGen (NatNetworkStep D) N N') (i : ι) :
    (D.firstNode i = false → (N.host i).threads.manager.natType = kNatTypeUnknown ∨
        Fits D N.seen i (N.host i).threads.manager.natType) ∧
      ((N.host i).threads.manager.natType ≠ kNatTypeUnknown →
        (N'.host i).threads.manager.natType = (N.host i).threads.manager.natType) ∧
      ((N.host i).caller = .returned true → (N.host i).threads.manager.natType ≠ kNatTypeUnknown) := by
  have hsound := (NatNetworkSound.start D).run h
  refine ⟨fun hfirst => ?_, keepsVerdict_run h' i, fun hend => hsound.caller i (by rw [hend]; rfl)⟩
  rcases (hsound.threads i).manager.verdict with ⟨hother, _⟩ | ⟨_, hverdict⟩
  · rw [hfirst] at hother
    cases hother
  · exact hverdict

end Runs
section Samples

/-- A boot node and a node that is not behind a NAT. -/
def bootAndPeer : NatDeployment Bool where
  firstNode i := !i
  localIp i := if i then [50] else [49]
  natLocalPort _ := 9000
  home e := if e.fromIp = [50] then some true else if e.fromIp = [49] then some false else none

def asking : NatNetwork Bool :=
  [NatAction.multiNatDetect [⟨[49], 9000⟩], .advanceCaller 7, .advanceCaller 7].foldl
    (fun N a => N.act bootAndPeer true a) bootAndPeer.start

def detectRequestPing : NatPing where
  transport := 1
  message := { type := .kadNatDetectRequest, id := 7, isRoot := true, data := .detectRequest ⟨[50], 9000⟩ }
  toIp := [49]
  toPort := 9000

def answered : NatNetwork Bool :=
  (List.replicate 3 (NatAction.run .worker)).foldl (fun N a => N.act bootAndPeer false a)
    (asking.deliver true false detectRequestPing.message ⟨[50], 9000⟩)

def detectResponsePing : NatPing where
  transport := 0
  message := { type := .kadNatDetectResponse, id := 7, isRoot := true, data := .detectResponse ⟨kNatTypePublic, 9000⟩ }
  toIp := [50]
  toPort := 9000

def detected : NatNetwork Bool :=
  (List.replicate 5 (NatAction.run .worker)).foldl (fun N a => N.act bootAndPeer true a)
    (answered.deliver false true detectResponsePing.message ⟨[49], 9000⟩)

theorem run_acts {ι : Type} [DecidableEq ι] {D : NatDeployment ι} {N M : NatNetwork ι}
    (h : Relation.ReflTransGen (NatNetworkStep D) N M) (i : ι) (as : List NatAction) :
    Relation.ReflTransGen (NatNetworkStep D) N (as.foldl (fun N a => N.act D i a) M) := by
  induction as generalizing M with
  | nil => exact h
  | cons a as ih => exact ih (h.tail (.act i a))

theorem run_answered : Relation.ReflTransGen (NatNetworkStep bootAndPeer) bootAndPeer.start answered := by
  apply run_acts
  refine (run_acts .refl true _).tail (.deliver true false ?_ ?_ ⟨[50], 9000⟩ ?_)
  · decide +kernel
  · decide
  · decide

theorem run_detected : Relation.ReflTransGen (NatNetworkStep bootAndPeer) answered detected := by
  apply run_acts
  refine Relation.ReflTransGen.single (.deliver false true ?_ ?_ ⟨[49], 9000⟩ ?_)
  · decide +kernel
  · decide
  · decide

theorem natDetection_sound_public :
    (detected.host true).threads.manager.natType = kNatTypePublic ∧
      Fits bootAndPeer detected.seen true (detected.host true).threads.manager.natType := by
  have hset : (detected.host true).threads.manager.natType = kNatTypePublic := by decide +kernel
  have hsound := natDetection_sound (run_answered.trans run_detected) .refl true
  refine ⟨hset, (hsound.1 rfl).resolve_left ?_⟩
  rw [hset]
  decide

end Samples
end XKad
