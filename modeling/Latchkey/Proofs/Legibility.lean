import Latchkey.Proofs.Mailboxes

/-!
# Why sending and waiting fail

A message that cannot be opened is kept as the reason why. Neither that nor anything else that goes wrong
while a client sends or listens has the name of a step around it; the client puts exactly one there.
-/

namespace Latchkey

namespace Failure

/-- There is exactly one step around the failure. -/
def Located (e : Failure) : Prop := ∃ name cause, e = .during name cause ∧ cause.Bare

theorem Located.not_bare {e : Failure} (h : e.Located) : ¬ e.Bare := by
  obtain ⟨name, cause, rfl, -⟩ := h
  exact id

theorem Bare.root {e : Failure} (h : e.Bare) : e.root = e := by
  cases e with
  | during name cause => exact h.elim
  | _ => rfl

end Failure

private theorem Codec.timeless_of_decode {codec : Codec} {message : Bytes} {e : Failure}
    (h : codec.decode message = .error e) : e.Timeless := by
  cases codec with
  | plain =>
    rw [decode] at h
    cases hdecode : Command.decode message with
    | ok c =>
      rw [hdecode] at h
      cases h
    | error wire =>
      rw [hdecode] at h
      cases h
      trivial
  | sealed authorization shared =>
    rw [decode] at h
    split at h
    · split at h
      · cases h
      · cases h
        trivial
    · cases h
      trivial

/-- An arrival that is no command says why, without a step around it. -/
def Arrival.Legible (arrival : Arrival) : Prop := ∀ e, arrival = .error e → e.Bare

namespace Mailbox

def Legible (box : Mailbox) : Prop := ∀ arrival ∈ box.inbox, arrival.Legible

/-- Every arrival that is no command is a failure of this kind. -/
def Damaged (P : Failure → Prop) (box : Mailbox) : Prop := ∀ arrival ∈ box.inbox, ∀ e, arrival = .error e → P e

section Damaging

variable {P : Failure → Prop} (hP : ∀ {e : Failure}, e.Timeless → P e)
include hP

private theorem Damaged.deliver {box : Mailbox} (h : box.Damaged P) (chunk : Bytes) :
    (box.deliver chunk).Damaged P := by
  rw [Mailbox.deliver]
  split
  · by_cases hfull : chunk.length = Chunk.capacity
    · rw [push_full box hfull]
      exact h
    · rw [push_last box hfull]
      intro arrival harrival
      rcases List.mem_append.mp harrival with hbefore | hlast
      · exact h arrival hbefore
      · rw [List.mem_singleton.mp hlast]
        intro e he
        exact hP (Codec.timeless_of_decode he)
  · exact h

theorem damaged_postal : Postal (Damaged P) fun _ => True where
  new _ _ h := absurd h List.not_mem_nil
  detach h := h
  taken hrest h arrival harrival := h arrival (hrest.subset harrival)
  delivered {box chunks} _ h := by
    induction chunks generalizing box with
    | nil => exact h
    | cons chunk chunks ih => exact ih (h.deliver hP chunk)
  messages _ := trivial

end Damaging

theorem legible_postal : Postal Legible fun _ => True := damaged_postal Failure.Timeless.bare

end Mailbox

namespace Channel

variable {ch : Channel} {s : Scene} {e : Failure}

theorem damaged_deliveries {P : Failure → Prop} (hP : ∀ {e : Failure}, e.Timeless → P e)
    (h : s.Boxes (Mailbox.Damaged P)) : ∀ arrival ∈ ch.deliveries s, ∀ e, arrival = .error e → P e := by
  have hlapse (agenda : List Appointment) : (Scene.lapse agenda s).Boxes (Mailbox.Damaged P) := by
    induction agenda generalizing s with
    | nil => exact h
    | cons appointment agenda ih =>
      apply ih
      have hnow : Scene.Boxes (Mailbox.Damaged P) { s with now := appointment.time, agenda } := h
      apply hnow.happen (Mailbox.damaged_postal hP)
      cases appointment.happening <;> trivial
  intro arrival harrival
  rw [deliveries, inbox] at harrival
  cases hbox : ch.mailbox? (Scene.lapse s.agenda s) with
  | none =>
    rw [hbox] at harrival
    exact absurd harrival List.not_mem_nil
  | some box =>
    rw [hbox] at harrival
    exact (hlapse s.agenda).mailbox hbox arrival harrival

theorem legible_deliveries (h : s.Boxes Mailbox.Legible) : ∀ arrival ∈ ch.deliveries s, arrival.Legible :=
  damaged_deliveries Failure.Timeless.bare h

theorem error_of_listen {σ α : Type} {hear : σ → Arrival → Heard σ α} {timeout : Span} {state : σ}
    (h : (ch.listen hear timeout state s).1.2 = .error e) :
    (∃ state, ∃ arrival ∈ ch.deliveries s, hear state arrival = .done (.error e)) ∨
      Vain timeout (.error e : Except Failure α) := by
  obtain ⟨heard, -, ⟨arrival, hdone, hdeliveries⟩ | ⟨hvain, -⟩⟩ := ch.heeds_listen hear timeout state s
  · rw [h] at hdone
    refine .inl ⟨_, arrival, ?_, hdone⟩
    rw [hdeliveries]
    exact List.mem_append_right _ List.mem_cons_self
  · rw [h] at hvain
    exact .inr hvain

theorem bare_of_listen {σ α : Type} {hear : σ → Arrival → Heard σ α} {timeout : Span} {state : σ}
    (hhear : ∀ state arrival e, Arrival.Legible arrival → hear state arrival = .done (.error e) → e.Bare)
    (hs : s.Boxes Mailbox.Legible) (h : (ch.listen hear timeout state s).1.2 = .error e) : e.Bare := by
  rcases error_of_listen h with ⟨state, arrival, hmem, hdone⟩ | hvain
  · exact hhear state arrival e (legible_deliveries hs arrival hmem) hdone
  · rcases hvain with hvain | hvain | hvain <;> cases hvain <;> trivial

theorem timeless_of_refuseFault {c : Command} (h : ch.refuseFault c = .error e) : e.Timeless := by
  rw [refuseFault] at h
  split at h
  · cases h
    trivial
  · cases h

theorem error_of_hearFor {id : CommandId} {arrival : Arrival} (h : ch.hearFor id () arrival = .done (.error e)) :
    arrival = .error e ∨ e.Timeless := by
  cases arrival with
  | error cause =>
    cases h
    exact .inl rfl
  | ok c =>
    rw [hearFor] at h
    split at h
    · cases h
    · split at h
      · cases h
      · rename_i hfault
        cases h
        exact .inr (timeless_of_refuseFault hfault)

theorem bare_of_waitFor {id : CommandId} {timeout : Span} (hs : s.Boxes Mailbox.Legible)
    (h : (ch.waitFor id timeout s).1 = .error e) : e.Bare := by
  rw [waitFor_eq] at h
  refine bare_of_listen (fun _ arrival e harrival hdone => ?_) hs h
  rcases error_of_hearFor hdone with rfl | htimeless
  · exact harrival e rfl
  · exact htimeless.bare

theorem legible_waitFor (ch : Channel) (id : CommandId) (timeout : Span) (hs : s.Boxes Mailbox.Legible) :
    (ch.waitFor id timeout s).2.Boxes Mailbox.Legible := by
  rw [waitFor_eq]
  exact (ch.posts_listen Mailbox.legible_postal _ timeout () s s.expects_anything hs).2

theorem timeless_of_send {c : Command} (h : (ch.send c s).1 = .error e) : e.Timeless := by
  rw [send_eq] at h
  cases hencode : (ch.codec.encode c s.nonces).1 with
  | error wire =>
    rw [hencode] at h
    cases h
    trivial
  | ok message =>
    rw [hencode] at h
    rw [writeAll_error h]
    trivial

private theorem bare_of_send {c : Command} (h : (ch.send c s).1 = .error e) : e.Bare := (timeless_of_send h).bare

theorem timeless_of_attach {link : Nat} {codec : Codec} (h : (attach link codec s).1 = .error e) : e.Timeless := by
  rw [attach_eq] at h
  split at h
  · cases h
    trivial
  · dsimp only at h
    split at h
    · cases h
      trivial
    · cases h

theorem bare_of_attach {link : Nat} {codec : Codec} (h : (attach link codec s).1 = .error e) : e.Bare :=
  (timeless_of_attach h).bare

end Channel

namespace Session

variable {α β : Type} {act : Act α} {s : Session}

/-- If the act fails here, it fails in exactly one step. -/
def Locates (act : Act α) (s : Session) : Prop := ∀ e, (act s).1 = .error e → e.Located

theorem Locates.bind {next : α → Act β} (h : Locates act s)
    (hnext : ∀ a s', act s = (.ok a, s') → Locates (next a) s') : Locates (act >>= next) s := by
  intro e he
  rcases hrun : act s with ⟨cause | a, s'⟩
  · rw [run_bind_error hrun] at he
    cases he
    exact h e (by rw [hrun])
  · rw [run_bind_ok hrun] at he
    exact hnext a s' hrun e he

private theorem located_of_mapError {name : String} {result : Except Failure α} {e : Failure}
    (h : ∀ cause, result = .error cause → cause.Bare)
    (he : result.mapError (Failure.during name) = .error e) : e.Located := by
  obtain ⟨cause, hresult, rfl⟩ := exists_of_mapError he
  exact ⟨name, cause, rfl, h cause hresult⟩

section Conversing

variable {writes : Bool} {user : Option Channel} {ch : Channel} {sent sent' : Bool}
  (h : Conversation writes user ch sent sent' act) (huser : Knows user s)
  (hs : s.scene.Boxes Mailbox.Legible)
include h huser hs

theorem Conversation.legible : (act s).2.scene.Boxes Mailbox.Legible :=
  (h.keeps (posts_talkative Mailbox.legible_postal) huser s.scene.expects_anything hs).2

/-- Where everything that has arrived is legible, a conversation fails in exactly one step. -/
theorem Conversation.locates : Locates act s := by
  induction h generalizing s with
  | pure sent a =>
    intro e he
    cases he
  | settle sent name bare => exact fun e he => located_of_mapError bare he
  | draw allowed sent count =>
    intro e he
    rw [Act.run_onAir, Radio.run_drawNonce] at he
    cases he
  | send allowed sent name c =>
    intro e he
    rw [run_sendStep] at he
    exact located_of_mapError (fun _ => Channel.bare_of_send) he
  | wait name id =>
    intro e he
    rw [run_waitStep] at he
    exact located_of_mapError (fun _ => Channel.bare_of_waitFor hs) he
  | lookup known rest ih =>
    rw [Locates, run_bind_ok (userChannel_of_some (huser ch known))]
    exact ih huser hs
  | bind opening rest ih ih' =>
    apply (ih huser hs).bind
    intro a s' hrun
    have huser' := opening.keeps_knows huser
    have hs' := opening.legible huser hs
    rw [hrun] at huser' hs'
    exact ih' a huser' hs'

end Conversing

end Session

end Latchkey
