import Latchkey.Proofs.Errands
import Latchkey.Proofs.Negotiation

/-!
# Reachable sessions

A session is reached from a client that is not connected, among links that have not been used, by calls in
any order, each with its own agenda, and by anything that may happen between them. Every such session is
sound.
-/

namespace Latchkey

/-- An operation of a client. -/
inductive Call where
  | connect (link : Nat)
  | authenticate (credentials : Credentials)
  | pair (keys : KeyPair) (who : Pairing.Applicant)
  | close
  | perform (request : Bytes → Command)
  | errand (errand : Errand)
  | readStates
  | readLogEntries (range : LogRange) (pin : Pin)

/-- The operation, apart from what it returns. -/
def Call.act : Call → Act Unit
  | connect link => Session.connect link
  | authenticate credentials => Session.authenticate credentials
  | pair keys who => discard (Session.pair keys who)
  | close => Session.close
  | perform request => Session.perform request
  | errand e => e.act
  | readStates => discard Session.readStates
  | readLogEntries range pin => discard (Session.readLogEntries range pin)

/-- The session in which an operation begins. -/
def Session.begin (cancelAt : Option Nat) (agenda : List Appointment) (s : Session) : Session :=
  { s with scene := s.scene.begin cancelAt agenda }

/-- What can change a session. -/
inductive Event where
  /-- An operation with what happens while it waits. -/
  | call (cancelAt : Option Nat) (agenda : List Appointment) (call : Call)
  /-- Something that happens between two operations. -/
  | happening (happening : Happening)
  /-- A device shows one more characteristic. -/
  | expose (link : Nat) (characteristic : Uuid)

/-- The session after an event. -/
def Event.apply (s : Session) : Event → Session
  | call cancelAt agenda c => (c.act (s.begin cancelAt agenda)).2
  | happening h => { s with scene := s.scene.happen h }
  | expose link u =>
    { s with scene := s.scene.adjustLink link fun p => { p with exposed := u :: p.exposed } }

/-- No link has been used yet; what the devices expose, fail at and reply may be anything. -/
def Scene.Unused (s : Scene) : Prop :=
  ∀ p ∈ s.links, p.closed = false ∧ p.mailboxes = [] ∧ p.outbound = [] ∧ p.written = #[] ∧
    p.messages = #[]

/-- A session that events can lead to. -/
inductive Reachable : Session → Prop where
  | start {options : Options} {scene : Scene} {s : Session} (unused : scene.Unused)
    (started : Session.start options scene = .ok s) : Reachable s
  | event {s : Session} (before : Reachable s) (event : Event) : Reachable (event.apply s)

/-- An event in which nobody but the client closes a link. -/
def Event.Spares : Event → Prop
  | call _ agenda _ => ∀ appointment ∈ agenda, appointment.happening.Spares
  | happening h => h.Spares
  | expose _ _ => True

/-- A session that events can lead to in which nobody but the client closes a link. -/
inductive Exclusive : Session → Prop where
  | start {options : Options} {scene : Scene} {s : Session} (unused : scene.Unused)
    (started : Session.start options scene = .ok s) : Exclusive s
  | event {s : Session} (before : Exclusive s) {event : Event} (spares : event.Spares) :
    Exclusive (event.apply s)

private theorem Exclusive.reachable {s : Session} (h : Exclusive s) : Reachable s := by
  induction h with
  | start unused started => exact .start unused started
  | event before spares ih => exact .event ih _

namespace Session

theorem start_eq {options : Options} {scene : Scene} {s : Session}
    (h : Session.start options scene = .ok s) : s = { options, scene } := by
  rw [start] at h
  cases hvalid : options.validate with
  | error e =>
    rw [hvalid] at h
    cases h
  | ok _ =>
    rw [hvalid] at h
    exact (Except.ok.inj h).symm

theorem sound_start {options : Options} {scene : Scene} {s : Session} (hunused : scene.Unused)
    (hstart : Session.start options scene = .ok s) : s.Sound := by
  rw [start_eq hstart]
  refine ⟨fun i u => ?_, (fun ch hch => by cases hch), (fun ch hch => by cases hch)⟩
  by_cases hi : i < scene.links.length
  · have hlink : scene.link i = scene.links[i] := by
      rw [Scene.link, List.getD_eq_getElem?_getD, List.getElem?_eq_getElem hi, Option.getD_some]
    obtain ⟨-, -, houtbound, -⟩ := hunused _ (List.getElem_mem hi)
    rw [hlink, houtbound]
    rfl
  · rw [Scene.link_of_length_le (Nat.not_lt.mp hi)]
    rfl

theorem sound_begin {s : Session} (cancelAt : Option Nat) (agenda : List Appointment) (h : s.Sound) :
    (s.begin cancelAt agenda).Sound := ⟨h.tidy, h.general, h.user⟩

/-- A relation that holds over exchanges, and over opening and closing channels, holds over every
operation. -/
theorem keeps_call {R : Session → Session → Prop} (hR : Talkative R)
    (hconnect : ∀ link, Keeps R (connect link)) (hauthenticate : ∀ c, Keeps R (authenticate c))
    (hclose : Keeps R close) (call : Call) : Keeps R call.act := by
  cases call with
  | connect link => exact hconnect link
  | authenticate credentials => exact hauthenticate credentials
  | pair keys who =>
    exact hR.lasting.bind (keeps_pair hR hauthenticate keys who) fun _ => hR.lasting.pure ()
  | close => exact hclose
  | perform request => exact (requests_perform request).dialogue.keeps hR
  | errand errand =>
    intro s
    rcases errand.act_cases s with hsame | ⟨act, hprotects, hrun⟩
    · rw [Call.act, hsame]
      exact hR.lasting.refl s
    · rw [Call.act, hrun]
      exact hprotects.keeps hR hclose s
  | readStates => exact hR.lasting.bind (dialogue_readStates.keeps hR) fun _ => hR.lasting.pure ()
  | readLogEntries range pin =>
    have hstream := (protects_streamLogEntries range pin).keeps hR hclose
    exact hR.lasting.bind (m := readLogEntries range pin) hstream fun _ => hR.lasting.pure ()

private theorem upholds_call (call : Call) : Keeps Upholds call.act :=
  keeps_call upholds_settling.talkative upholds_furnishing.keeps_connect upholds_furnishing.keeps_authenticate
    upholds_close call

private theorem sound_event {s : Session} (h : s.Sound) (event : Event) : (event.apply s).Sound := by
  have hR := upholds_settling.airy
  cases event with
  | call cancelAt agenda call => exact upholds_call call _ (sound_begin cancelAt agenda h)
  | happening happening => exact hR.quiet (Scene.quiet_happen s.scene happening) h
  | expose link u => exact hR.quiet (Scene.quiet_putLink rfl rfl) h

theorem sound_of_reachable {s : Session} (h : Reachable s) : s.Sound := by
  induction h with
  | start unused started => exact sound_start unused started
  | event before event ih => exact sound_event ih event

theorem linked_of_reachable {s : Session} (h : Reachable s) : s.Linked := by
  induction h with
  | start unused started =>
    rw [start_eq started]
    rfl
  | event before event ih =>
    cases event with
    | call cancelAt agenda call =>
      exact keeps_call links_talkative links_furnishing.keeps_connect links_furnishing.keeps_authenticate
        links_furnishing.closes call _ ih
    | happening happening => exact ih
    | expose link u => exact ih

end Session

/-- A client with credentials that has just connected to a lock. -/
def Session.atLock : Session :=
  let lock : Peripheral := { exposed := [Profile.smartLock.general, Profile.smartLock.user] }
  let key : Key := ⟨List.replicate 32 1, rfl⟩
  let credentials : Credentials := { authorization := 7, clientSecret := key, devicePublic := key }
  let installed := (Event.call none [] (.authenticate credentials)).apply
    { options := {}, scene := { links := [lock] } }
  (Event.call none [] (.connect 0)).apply installed

theorem Scene.unused_alone (exposed : List Uuid) (script : List (List Bytes)) (nonces : Nonces) :
    Scene.Unused { links := [{ exposed, script }], nonces } := by
  intro p hp
  cases List.mem_singleton.mp hp
  exact ⟨rfl, rfl, rfl, rfl, rfl⟩

theorem exclusive_atLock : Exclusive Session.atLock := by
  have hunused := Scene.unused_alone [Profile.smartLock.general, Profile.smartLock.user] [] { bytes := [] }
  have hstart := @Exclusive.start {} _ _ hunused rfl
  have hquiet : ∀ appointment ∈ ([] : List Appointment), appointment.happening.Spares :=
    fun _ h => absurd h List.not_mem_nil
  unfold Session.atLock
  refine (hstart.event ?_).event ?_
  · exact hquiet
  · exact hquiet

theorem reachable_atLock : Reachable Session.atLock := exclusive_atLock.reachable

end Latchkey
