import Latchkey.Proofs.Histories

/-!
# Closing

A client closes what it has open in a fixed order and goes on whatever fails, so it can be told beforehand what
closing will come to: it is what the links fail at. On a link that has been closed nothing is heard any more.
-/

namespace Latchkey

private theorem Registry.adjust_mapValues {α : Type} {change again : α → α} (u : Uuid) (registry : Registry α)
    (h : ∀ value, again (change value) = change value) :
    (registry.mapValues change).adjust u again = registry.mapValues change := by
  rw [mapValues, adjust, List.map_map]
  apply List.map_congr_left
  rintro ⟨v, value⟩ _
  simp only [Function.comp_apply, h, ite_self]

private theorem Mailbox.foldl_deliver_detach (box : Mailbox) (chunks : List Bytes) :
    chunks.foldl deliver box.detach = box.detach := by
  induction chunks with
  | nil => rfl
  | cons chunk chunks ih => exact ih

namespace Peripheral

/-- The link without any subscription. -/
def hungUp (p : Peripheral) : Peripheral :=
  { p with closed := true, mailboxes := p.mailboxes.mapValues Mailbox.detach }

private theorem not_subscribed_hungUp (p : Peripheral) (u : Uuid) : ¬ p.hungUp.Subscribed u := by
  rintro ⟨box, hbox, hattached⟩
  rw [hungUp, Registry.get?_mapValues] at hbox
  obtain ⟨before, -, rfl⟩ := Option.map_eq_some_iff.mp hbox
  cases hattached

private theorem notifyAll_hungUp (p : Peripheral) (u : Uuid) (chunks : List Bytes) :
    p.hungUp.notifyAll u chunks = p.hungUp := by
  rw [notifyAll_eq, hungUp, Registry.adjust_mapValues u p.mailboxes fun box => box.foldl_deliver_detach chunks]

theorem check_eq_ok_iff {op : Operation} {p : Peripheral} : p.check op = .ok () ↔ op ∉ p.failing := by
  rw [check]
  by_cases hfails : op ∈ p.failing
  · simp [hfails]
  · simp [hfails]

private theorem subscribed_detach (p : Peripheral) (u v : Uuid) :
    Subscribed { p with mailboxes := p.mailboxes.adjust v Mailbox.detach } u ↔ p.Subscribed u ∧ u ≠ v := by
  rw [Subscribed, Subscribed, Registry.get?_adjust]
  by_cases huv : u = v
  · rw [if_pos huv]
    cases p.mailboxes.get? u <;> simp [huv, Mailbox.detach]
  · rw [if_neg huv]
    exact (and_iff_left huv).symm

end Peripheral

namespace Channel

variable (ch : Channel) (s : Scene)

theorem close_fst : (ch.close s).1 = (s.link ch.link).check .unsubscribe := by
  rw [close_eq, Peripheral.check]
  split
  · rfl
  · rfl

private theorem subscribed_close (i : Nat) (u : Uuid) :
    ((ch.close s).2.link i).Subscribed u ↔
      (s.link i).Subscribed u ∧ ¬ (ch.On i u ∧ Operation.unsubscribe ∉ (s.link i).failing) := by
  rw [close_eq, On]
  by_cases hfails : Operation.unsubscribe ∈ (s.link ch.link).failing
  · rw [if_pos hfails]
    refine (and_iff_left ?_).symm
    rintro ⟨⟨rfl, -⟩, hworks⟩
    exact hworks hfails
  · rw [if_neg hfails]
    show ((s.adjustLink ch.link _).link i).Subscribed u ↔ _
    rw [Scene.link_adjustLink]
    split
    · rename_i hlink
      obtain ⟨rfl, -⟩ := hlink
      rw [Peripheral.subscribed_detach]
      simp [hfails]
    · rename_i hlink
      refine (and_iff_left_of_imp ?_).symm
      rintro ⟨box, hbox, -⟩ ⟨⟨rfl, -⟩, -⟩
      rw [Scene.link_of_length_le (by simpa using hlink)] at hbox
      cases hbox

end Channel

namespace Radio

variable (i : Nat) (s : Scene)

theorem closeLink_eq :
    closeLink i s = if Operation.close ∈ (s.link i).failing then (.error (Peripheral.refusal .close), s)
      else (.ok (), s.adjustLink i Peripheral.hungUp) := by
  rw [closeLink, onLink, Peripheral.close_eq]
  by_cases hfails : Operation.close ∈ (s.link i).failing
  · simp only [if_pos hfails]
  · simp only [if_neg hfails]
    rfl

theorem closeLink_fst : (closeLink i s).1 = (s.link i).check .close := by
  rw [closeLink_eq, Peripheral.check]
  split
  · rfl
  · rfl

private theorem subscribed_closeLink (j : Nat) (u : Uuid) :
    ((closeLink i s).2.link j).Subscribed u ↔
      (s.link j).Subscribed u ∧ ¬ (i = j ∧ Operation.close ∉ (s.link j).failing) := by
  rw [closeLink_eq]
  by_cases hfails : Operation.close ∈ (s.link i).failing
  · rw [if_pos hfails]
    refine (and_iff_left ?_).symm
    rintro ⟨rfl, hworks⟩
    exact hworks hfails
  · rw [if_neg hfails]
    show ((s.adjustLink i _).link j).Subscribed u ↔ _
    rw [Scene.link_adjustLink]
    split
    · rename_i hlink
      obtain ⟨rfl, -⟩ := hlink
      exact iff_of_false (Peripheral.not_subscribed_hungUp _ u) fun h => h.2 ⟨rfl, hfails⟩
    · rename_i hlink
      refine (and_iff_left_of_imp ?_).symm
      rintro ⟨box, hbox, -⟩ ⟨rfl, -⟩
      rw [Scene.link_of_length_le (by simpa using hlink)] at hbox
      cases hbox

/-- What comes of the attempt hangs only on what the links fail at, which it leaves alone. -/
def Fated (run : Radio Unit) : Prop :=
  ∀ s, s.SameDevices (run s).2 ∧ ∀ s', s.SameDevices s' → (run s').1 = (run s).1

private theorem fated_close (ch : Channel) : Fated ch.close := by
  refine fun s => ⟨ch.sameDevices_close s, fun s' h => ?_⟩
  rw [ch.close_fst, ch.close_fst, Peripheral.check, Peripheral.check, (h _).2]

private theorem fated_closeLink : Fated (closeLink i) := by
  refine fun s => ⟨sameDevices_closeLink i s, fun s' h => ?_⟩
  rw [closeLink_fst, closeLink_fst, Peripheral.check, Peripheral.check, (h _).2]

/-- Each of such attempts comes to what it would have come to at the start. -/
theorem tryAll_fst {runs : List (Radio Unit)} (h : ∀ run ∈ runs, Fated run) (s : Scene) :
    (tryAll runs s).1 = runs.map fun run => (run s).1 := by
  induction runs generalizing s with
  | nil => rfl
  | cons run runs ih =>
    rw [List.forall_mem_cons] at h
    obtain ⟨hrun, hruns⟩ := h
    have hrest : runs.map (fun later => (later (run s).2).1) = runs.map fun later => (later s).1 := by
      apply List.map_congr_left
      intro later hlater
      exact (hruns later hlater s).2 _ (hrun s).1
    rw [tryAll, ih hruns, hrest, List.map_cons]

private theorem tryAll_append (runs later : List (Radio Unit)) (s : Scene) :
    (tryAll (runs ++ later) s).2 = (tryAll later (tryAll runs s).2).2 := by
  rw [tryAll_snd, tryAll_snd, tryAll_snd, List.foldl_append]

private theorem sameDevices_tryAll {runs : List (Radio Unit)} (h : ∀ run ∈ runs, Fated run) (s : Scene) :
    s.SameDevices (tryAll runs s).2 := by
  rw [tryAll_snd]
  exact Scene.sameDevices_lasting.foldl (fun run hrun s => (h run hrun s).1) s

private theorem subscribed_closeAll (channels : List Channel) (u : Uuid) :
    ((tryAll (channels.map Channel.close) s).2.link i).Subscribed u ↔
      (s.link i).Subscribed u ∧
        ¬ ((∃ ch ∈ channels, ch.On i u) ∧ Operation.unsubscribe ∉ (s.link i).failing) := by
  induction channels generalizing s with
  | nil => simp [tryAll]
  | cons ch channels ih =>
    rw [List.map_cons, tryAll, ih, ch.subscribed_close, (ch.sameDevices_close s i).2, and_assoc, ← not_or,
      ← or_and_right]
    simp only [List.mem_cons, or_and_right, exists_or, exists_eq_left]

end Radio

namespace Session

variable (s : Session)

theorem fated_closings : ∀ closing ∈ s.closings, Radio.Fated closing :=
  forall_closings Radio.fated_close Radio.fated_closeLink s

private theorem tryAll_closings :
    (Radio.tryAll s.closings s.scene).1 =
      (s.general.toList ++ s.user.toList).map (fun ch => (s.scene.link ch.link).check .unsubscribe) ++
        s.link.toList.map fun i => (s.scene.link i).check .close := by
  rw [Radio.tryAll_fst s.fated_closings, closings, List.map_append, List.map_map, List.map_map]
  simp only [Function.comp_def, Channel.close_fst, Radio.closeLink_fst]

private theorem exists_unsubscribed :
    ∃ scene, (close s).2.scene = (Radio.tryAll (s.link.toList.map Radio.closeLink) scene).2 ∧
      s.scene.SameDevices scene ∧
      ∀ i u, (scene.link i).Subscribed u ↔
        (s.scene.link i).Subscribed u ∧
          ¬ (s.Uses i u ∧ Operation.unsubscribe ∉ (s.scene.link i).failing) := by
  have hfated : ∀ run ∈ (s.general.toList ++ s.user.toList).map Channel.close, Radio.Fated run :=
    List.forall_mem_map.mpr fun ch _ => Radio.fated_close ch
  refine ⟨_, ?_, Radio.sameDevices_tryAll hfated s.scene, fun i u => ?_⟩
  · rw [run_close, closings, Radio.tryAll_append]
  · have hchannels : (∃ ch ∈ s.general.toList ++ s.user.toList, ch.On i u) ↔ s.Uses i u := by
      simp only [List.mem_append, Option.mem_toList, Uses]
    rw [Radio.subscribed_closeAll, hchannels]

/-- Of the subscriptions there were, the ones that closing has ended are those of the channels of the client
and, once the link in use is closed, all of that link. -/
theorem subscribed_closed (i : Nat) (u : Uuid) :
    ((close s).2.scene.link i).Subscribed u ↔
      (s.scene.link i).Subscribed u ∧
        ¬ (s.Uses i u ∧ Operation.unsubscribe ∉ (s.scene.link i).failing) ∧
        ¬ (s.link = some i ∧ Operation.close ∉ (s.scene.link i).failing) := by
  obtain ⟨scene, hscene, hdevices, hunsubscribed⟩ := s.exists_unsubscribed
  rw [hscene, ← and_assoc, ← hunsubscribed, ← (hdevices i).2]
  cases s.link with
  | none => simp [Radio.tryAll]
  | some j =>
    rw [Option.some_inj]
    exact Radio.subscribed_closeLink j scene i u

/-- On the link in use, once it is closed, nothing arrives any more. -/
theorem happen_closed {i : Nat} (hlink : s.link = some i)
    (hworks : (s.scene.link i).check .close = .ok ()) (u : Uuid) (chunks : List Bytes) :
    (close s).2.scene.happen (.arrival i u chunks) = (close s).2.scene := by
  obtain ⟨scene, hscene, hdevices, -⟩ := s.exists_unsubscribed
  have hsame : Peripheral.notifyAll u chunks ∘ Peripheral.hungUp = Peripheral.hungUp :=
    funext fun p => p.notifyAll_hungUp u chunks
  have hclosed : (close s).2.scene = scene.adjustLink i Peripheral.hungUp := by
    rw [hscene, hlink]
    show (Radio.closeLink i scene).2 = _
    rw [Radio.closeLink_eq, if_neg]
    rw [(hdevices i).2]
    exact Peripheral.check_eq_ok_iff.mp hworks
  rw [hclosed, Scene.happen, Scene.adjustLink_adjustLink, hsame]

theorem closingVerdict_eq_ok_iff {outcomes : List (Except Failure Unit)} :
    closingVerdict outcomes = .ok () ↔ ∀ outcome ∈ outcomes, outcome = .ok () := by
  have hfailure (outcome : Except Failure Unit) : Act.failure? outcome = none ↔ outcome = .ok () := by
    cases outcome with
    | error e => simp [Act.failure?]
    | ok done => simp [Act.failure?]
  have hverdict : closingVerdict outcomes = .ok () ↔ outcomes.filterMap Act.failure? = [] := by
    rw [closingVerdict]
    cases outcomes.filterMap Act.failure? with
    | nil => simp
    | cons e failures => simp
  simp only [hverdict, List.filterMap_eq_nil_iff, hfailure]

theorem closingVerdict_of_ne {outcomes : List (Except Failure Unit)} (h : closingVerdict outcomes ≠ .ok ()) :
    closingVerdict outcomes = .error (.closing (outcomes.filterMap Act.failure?)) := by
  rw [closingVerdict] at h ⊢
  split at h
  · exact absurd rfl h
  · rfl

end Session

/-- Closing unsubscribes first the general channel and then the user channel, as far as they are open, and then
closes the link in use, whatever fails. What each attempt comes to is what its link fails at; closing succeeds
exactly if all of them do, and otherwise it reports exactly what has failed, in this order. It leaves a client
that has nothing open and all else as it was, so there is nothing more to close. The subscriptions that it has
ended are those of the channels, unless unsubscribing fails, and all of the link, unless closing fails; and on a
link that has been closed whatever arrives later makes no difference. -/
theorem close_complete (s : Session) :
    let attempts := (s.general.toList ++ s.user.toList).map Channel.close ++ s.link.toList.map Radio.closeLink
    let outcomes := (Radio.tryAll attempts s.scene).1
    let result := (Session.close s).1
    let after := (Session.close s).2
    outcomes =
        (s.general.toList ++ s.user.toList).map (fun ch => (s.scene.link ch.link).check .unsubscribe) ++
          s.link.toList.map (fun i => (s.scene.link i).check .close) ∧
      (result = .ok () ↔ ∀ outcome ∈ outcomes, outcome = .ok ()) ∧
      (result ≠ .ok () → result = .error (.closing (outcomes.filterMap Act.failure?))) ∧
      after = { s with
        link := none, general := none, user := none, scene := (Radio.tryAll attempts s.scene).2 } ∧
      (∀ cancelAt agenda,
        Session.close (after.begin cancelAt agenda) = (.ok (), after.begin cancelAt agenda)) ∧
      (∀ i u, (after.scene.link i).Subscribed u ↔ (s.scene.link i).Subscribed u ∧
        ¬ (s.Uses i u ∧ Operation.unsubscribe ∉ (s.scene.link i).failing) ∧
        ¬ (s.link = some i ∧ Operation.close ∉ (s.scene.link i).failing)) ∧
      ∀ i, s.link = some i → (s.scene.link i).check .close = .ok () → ∀ u,
        ¬ (after.scene.link i).Subscribed u ∧
          ∀ chunks, after.scene.happen (.arrival i u chunks) = after.scene := by
  intro attempts outcomes result after
  have hresult : result = Session.closingVerdict outcomes := congrArg Prod.fst s.run_close
  have hafter : after = { s with
    link := none, general := none, user := none, scene := (Radio.tryAll attempts s.scene).2 } :=
      congrArg Prod.snd s.run_close
  refine ⟨s.tryAll_closings, ?_, ?_, hafter, ?_, s.subscribed_closed, ?_⟩
  · rw [hresult]
    exact Session.closingVerdict_eq_ok_iff
  · rw [hresult]
    exact Session.closingVerdict_of_ne
  · intro cancelAt agenda
    rw [hafter]
    rfl
  · intro i hlink hworks u
    refine ⟨fun hsubscribed => ?_, s.happen_closed hlink hworks u⟩
    obtain ⟨-, -, hopen⟩ := (s.subscribed_closed i u).mp hsubscribed
    exact hopen ⟨hlink, Peripheral.check_eq_ok_iff.mp hworks⟩

/-- At a lock that cannot be unsubscribed from both channels fail to close, and yet the closed link is silent. -/
theorem close_complete_atLock :
    let s := (Event.happening (.failure 0 .unsubscribe)).apply Session.atLock
    let failed := Peripheral.refusal .unsubscribe
    let after := (Session.close s).2
    (Session.close s).1 = .error (.closing [failed, failed]) ∧ after.state = .disconnected ∧
      (s.scene.link 0).Subscribed Profile.smartLock.user ∧
      ¬ (after.scene.link 0).Subscribed Profile.smartLock.user ∧
      after.scene.happen (.arrival 0 Profile.smartLock.user [[0x04]]) = after.scene := by
  intro s failed after
  obtain ⟨houtcomes, hok, hfailed, -, -, -, hsilent⟩ := close_complete s
  have hworks : (s.scene.link 0).check .close = .ok () := rfl
  obtain ⟨hunsubscribed, hunheard⟩ := hsilent 0 rfl hworks Profile.smartLock.user
  have hresult : (Session.close s).1 ≠ .ok () := by
    rw [ne_eq, hok, houtcomes]
    exact fun h => nomatch h _ List.mem_cons_self
  refine ⟨?_, rfl, ⟨_, rfl, rfl⟩, hunsubscribed, hunheard _⟩
  rw [hfailed hresult, houtcomes]
  rfl

end Latchkey
