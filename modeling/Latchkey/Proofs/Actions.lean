import Latchkey.Bytes.Reader
import Latchkey.Proofs.Requests
import Latchkey.Proofs.Spending
import Latchkey.Proofs.Texts

/-!
# Actions carry the suffix

A client never changes its options, and it does not start with a suffix that is too long. It puts the suffix into
every action it makes, so the device shows all of it. Only an action that a caller has made by himself may have
another suffix or none.
-/

namespace Latchkey

namespace Request

section Payload

variable (code : UInt8) (app : UInt32) (flags : UInt8) (challenge : Bytes)

theorem length_actionPayload (suffix : Option String) :
    (actionPayload code app flags suffix challenge).length =
      6 + (if suffix.isSome then suffixLength else 0) + challenge.length := by
  cases suffix with
  | none =>
    simp only [actionPayload, List.length_cons, List.length_append, Bytes.length_ofWord32, List.length_nil]
    rw [Option.isSome_none, if_neg Bool.false_ne_true]
  | some text =>
    simp only [actionPayload, List.length_cons, List.length_append, Bytes.length_ofWord32, Padded.length_encode]
    rw [Option.isSome_some, if_pos rfl]
    omega

private theorem slice?_actionPayload (text : String) :
    (actionPayload code app flags (some text) challenge).slice? 6 suffixLength =
      some (Padded.encode suffixLength text) := by
  have hlength := length_actionPayload code app flags challenge (some text)
  have hpayload : actionPayload code app flags (some text) challenge =
      (code :: Bytes.ofWord32 app ++ [flags]) ++ (Padded.encode suffixLength text ++ challenge) := by
    simp [actionPayload]
  rw [Bytes.slice?_eq, hpayload, List.drop_left' (by simp), List.take_left' (Padded.length_encode ..)]
  rw [hlength]
  exact Nat.le_add_right ..

end Payload

end Request

namespace Options

theorem validate_eq_ok_iff {o : Options} :
    o.validate = .ok () ↔ 0 < o.timeout.nanoseconds ∧
      ∀ text, o.suffix = some text → (Utf8.ofString text).length ≤ Request.suffixLength := by
  rw [validate]
  by_cases hzero : o.timeout.nanoseconds = 0
  · rw [if_pos hzero]
    exact ⟨nofun, fun h => absurd hzero (Nat.ne_of_gt h.1)⟩
  rw [if_neg hzero]
  cases hsuffix : o.suffix with
  | none => exact ⟨fun _ => ⟨Nat.pos_of_ne_zero hzero, nofun⟩, fun _ => rfl⟩
  | some text =>
    by_cases hlong : Request.suffixLength < (Utf8.ofString text).length
    · refine ⟨fun h => ?_, fun h => absurd (h.2 text rfl) (Nat.not_le.mpr hlong)⟩
      dsimp only at h
      rw [if_pos hlong] at h
      cases h
    · refine ⟨fun _ => ⟨Nat.pos_of_ne_zero hzero, ?_⟩, fun _ => ?_⟩
      · rintro _ ⟨⟩
        exact Nat.not_lt.mp hlong
      · dsimp only
        rw [if_neg hlong]
        rfl

theorem validate_timeout {o : Options} (h : o.validate = .ok ()) {timeout : Span} :
    { o with timeout }.validate = .ok () ↔ 0 < timeout.nanoseconds := by
  rw [validate_eq_ok_iff]
  exact and_iff_left (validate_eq_ok_iff.mp h).2

private theorem length_suffix {o : Options} {text : String} (h : o.validate = .ok ())
    (hsuffix : o.suffix = some text) :
    (Utf8.ofString text).length ≤ Request.suffixLength := (validate_eq_ok_iff.mp h).2 text hsuffix

end Options

namespace Session

/-- The options are what they were before. -/
def SameOptions (s s' : Session) : Prop := s'.options = s.options

private theorem sameOptions_lasting : Lasting SameOptions where
  refl _ := rfl
  trans h h' := h'.trans h

private theorem sameOptions_talkative : Talkative SameOptions where
  lasting := sameOptions_lasting
  listens _ _ _ _ _ := rfl
  sends _ _ _ := rfl
  draws _ _ := rfl

private theorem sameOptions_furnishing : Furnishing SameOptions where
  lasting := sameOptions_lasting
  opensUser _ _ := rfl
  dropsUser _ _ := rfl
  engages _ _ := rfl
  closes s := by
    rw [close_state]
    rfl

private theorem options_event (s : Session) (event : Event) : (event.apply s).options = s.options := by
  cases event with
  | call cancelAt agenda call =>
    exact keeps_call sameOptions_talkative sameOptions_furnishing.keeps_connect
      sameOptions_furnishing.keeps_authenticate sameOptions_furnishing.closes call _
  | happening happening => rfl
  | expose link u => rfl

private theorem validate_of_reachable {s : Session} (h : Reachable s) : s.options.validate = .ok () := by
  induction h with
  | @start options scene s unused started =>
    rw [start_eq started]
    rw [start] at started
    cases hvalid : options.validate with
    | error e =>
      rw [hvalid] at started
      cases started
    | ok valid => rfl
  | event before event ih => rw [options_event, ih]

end Session

/-- The command is made of a challenge by a caller, and not by the client. -/
def Event.Crafts (c : Command) : Event → Prop
  | call _ _ (.perform request) => ∃ challenge, c = request challenge
  | _ => False

/-- The command is an action with the app and the suffix of these options. -/
def Options.Acts (o : Options) (c : Command) : Prop :=
  ∃ code challenge, c = .of (.known .lockAction) (Request.actionPayload code o.app 0 o.suffix challenge)

/-- The errand is about an action. -/
def Errand.Acts : Errand → Prop
  | lockAction _ | openAction _ | lockActionConfirmed _ => True
  | _ => False

theorem Errand.request_of_acts {errand : Errand} (h : errand.Acts) (o : Options) : ∃ code, ∀ challenge,
    errand.request o challenge = .of (.known .lockAction) (Request.actionPayload code o.app 0 o.suffix challenge) := by
  cases errand with
  | lockAction action => exact ⟨action.code, fun _ => rfl⟩
  | openAction action => exact ⟨action.code, fun _ => rfl⟩
  | lockActionConfirmed action => exact ⟨action.code, fun _ => rfl⟩
  | _ => exact h.elim

private theorem Errand.acts_of_carries {o : Options} {errand : Errand} {challenge : Bytes}
    (h : (errand.request o challenge).Carries (.known .lockAction)) : errand.Acts := by
  cases errand with
  | lockAction _ | openAction _ | lockActionConfirmed _ => trivial
  | _ => exact absurd h (Command.not_carries_of (by decide))

private theorem Errand.acts_of_request {o : Options} {errand : Errand} {challenge : Bytes}
    (h : (errand.request o challenge).Carries (.known .lockAction)) : o.Acts (errand.request o challenge) := by
  obtain ⟨code, hrequest⟩ := request_of_acts (acts_of_carries h) o
  exact ⟨code, challenge, hrequest challenge⟩

private theorem Session.Challenged.request_of_mem {request : Bytes → Command} {commands : List Command} {c : Command}
    (h : Challenged request commands) (hc : c ∈ commands) (hcarries : c.Carries (.known .lockAction)) :
    ∃ challenge, c = request challenge := by
  have hasking : c ≠ asking := by
    rintro rfl
    exact Command.not_carries_of (by decide) hcarries
  rcases h with rfl | ⟨challenge, rfl⟩
  · exact absurd (List.mem_singleton.mp hc) hasking
  · rcases List.mem_cons.mp hc with hfirst | hlast
    · exact absurd hfirst hasking
    · exact ⟨challenge, List.mem_singleton.mp hlast⟩

private theorem Pairing.Sends.not_carries {keys : KeyPair} {who : Applicant} {commands : List Command} {c : Command}
    (h : Sends keys who commands) (hc : c ∈ commands) : ¬ c.Carries (.known .lockAction) := by
  obtain ⟨-, device, first, second, nonce, last, authorization, hsteps⟩ := h
  have hstep := hsteps.subset hc
  simp only [steps, List.mem_cons, List.not_mem_nil, or_false] at hstep
  rcases hstep with rfl | rfl | rfl | rfl | rfl
  all_goals exact Command.not_carries_of (by decide)

private theorem Call.acts_of_sends {o : Options} {call : Call} {commands : List Command} {c : Command}
    (h : call.Sends o commands) (hc : c ∈ commands) (hcarries : c.Carries (.known .lockAction)) :
    o.Acts c ∨ ∃ request challenge, call = .perform request ∧ c = request challenge := by
  cases call with
  | connect link =>
    cases h
    exact absurd hc List.not_mem_nil
  | authenticate credentials =>
    cases h
    exact absurd hc List.not_mem_nil
  | close =>
    cases h
    exact absurd hc List.not_mem_nil
  | pair keys who => exact absurd hcarries (Pairing.Sends.not_carries h hc)
  | perform request =>
    obtain ⟨challenge, rfl⟩ := Session.Challenged.request_of_mem h hc hcarries
    exact .inr ⟨request, challenge, rfl, rfl⟩
  | errand errand =>
    obtain ⟨challenge, rfl⟩ := Session.Challenged.request_of_mem h hc hcarries
    exact .inl (Errand.acts_of_request hcarries)
  | readStates =>
    cases h
    cases List.mem_singleton.mp hc
    exact absurd hcarries (Command.not_carries_of (by decide))
  | readLogEntries range pin =>
    obtain ⟨challenge, rfl⟩ := Session.Challenged.request_of_mem h hc hcarries
    exact .inl (Errand.acts_of_request hcarries)

private theorem Event.acts_of_tries {s : Session} {event : Event} {attempts : List Attempt} {a : Attempt}
    (h : event.Tries s attempts) (ha : a ∈ attempts) (hcarries : a.command.Carries (.known .lockAction))
    (hown : ¬ event.Crafts a.command) : s.options.Acts a.command := by
  cases event with
  | happening x =>
    cases h
    exact absurd ha List.not_mem_nil
  | expose link u =>
    cases h
    exact absurd ha List.not_mem_nil
  | call cancelAt agenda c =>
    rw [Tries] at h
    split at h
    · rw [h] at ha
      exact absurd ha List.not_mem_nil
    · rcases Call.acts_of_sends h.1 (List.mem_map_of_mem ha) hcarries with hacts | ⟨request, challenge, rfl, hmade⟩
      · exact hacts
      · exact absurd ⟨challenge, hmade⟩ hown

/-- Whatever a client goes through, its actions have the suffix it has been started with. -/
theorem Attempted.acts {s : Session} {events : List Event} {attempts : List Attempt} {a : Attempt}
    (h : Attempted s events attempts) (ha : a ∈ attempts) (hcarries : a.command.Carries (.known .lockAction))
    (hown : ∀ event ∈ events, ¬ event.Crafts a.command) : s.options.Acts a.command := by
  induction h with
  | nil s => exact absurd ha List.not_mem_nil
  | @cons s event events attempts later made tries rest ih =>
    rcases List.mem_append.mp ha with hnow | hlater
    · exact Event.acts_of_tries tries hnow hcarries (hown event List.mem_cons_self)
    · have hacts := ih hlater fun event hevent => hown event (List.mem_cons_of_mem _ hevent)
      rwa [Session.options_event] at hacts

/-- If the device answers with a challenge, one of the attempts in the course of an errand is its request, and the
device can read it. -/
theorem Attempted.request_of_served {s : Session} {errand : Errand} {attempts : List Attempt} {user : Channel}
    {exposed : List Uuid} {replies : List Bytes} {script : List (List Bytes)} {inbox : List Arrival}
    {message : Bytes} {reply : Command} (h : Attempted s [.call none [] (.errand errand)] attempts)
    (hsuits : errand.Suits (s.begin none [])) (huser : s.user = some user)
    (hserved : user.Served exposed ([message] :: replies :: script) inbox (s.begin none []).scene)
    (hread : user.codec.decode message = .ok reply) (hcarries : reply.Carries (.known .challenge))
    (hlong : 32 ≤ reply.payload.length)
    (hfits : (errand.request s.options reply.payload).payload.length ≤ 65511) :
    ∃ a ∈ attempts, a.command = errand.request s.options reply.payload ∧
      ∃ bytes ∈ a.message, user.codec.decode bytes = .ok a.command := by
  obtain ⟨act, hprotects, hrun⟩ := Errand.act_of_suits hsuits
  have hmade := hprotects.makes (s := s.begin none []) huser hserved hread hcarries hlong hfits
  obtain ⟨messages, hwrote, hdecoded⟩ := hmade.decoded
  obtain ⟨first, rest, rfl, -, hrest⟩ := List.map_eq_cons_iff.mp hdecoded
  obtain ⟨second, rfl, hdecode⟩ := List.map_eq_singleton_iff.mp hrest
  -- The second message has been recorded, so it comes from some attempt.
  have hrecorded : attempts.filterMap (Attempt.recorded? user.link) =
      [(user.characteristic, first), (user.characteristic, second)] := by
    have hafter : [Event.call none [] (.errand errand)].foldl Event.apply s = (act (s.begin none [])).2 :=
      congrArg Prod.snd hrun
    have hmessages := h.attempts.messages user.link
    have hwritten := hwrote.messages user.link
    rw [if_pos rfl] at hwritten
    rw [hafter] at hmessages
    exact List.append_cancel_left (hmessages.symm.trans hwritten)
  have hsecond : (user.characteristic, second) ∈ attempts.filterMap (Attempt.recorded? user.link) := by
    rw [hrecorded]
    exact List.mem_cons_of_mem _ List.mem_cons_self
  obtain ⟨a, ha, hmessage⟩ := List.mem_filterMap.mp hsecond
  have hover : user = a.channel := by
    cases h with
    | cons made tries rest =>
      cases rest
      rw [List.append_nil] at ha
      rw [Event.Tries] at tries
      split at tries
      · rw [tries] at ha
        exact absurd ha List.not_mem_nil
      · exact Option.some.inj (huser.symm.trans (tries.2 a ha))
  rw [Attempt.recorded?, ← hover, if_pos rfl] at hmessage
  obtain ⟨bytes, hbytes, hpair⟩ := Option.map_eq_some_iff.mp hmessage
  cases hpair
  have hsent := h.attempts.decodes ha second hbytes
  rw [← hover] at hsent
  exact ⟨a, ha, Except.ok.inj (hsent.symm.trans hdecode), second, hbytes, hsent⟩

/-- Of a text with its zero character and what is behind it left out, a field of fixed width shows everything if that
fits, and otherwise the longest front that does, with one replacement character behind it if the cut is inside a
character. A client that has been started with a suffix without a zero character puts all of it into every action it
sends over a link, whatever it goes through: only an action that a caller has made may show something else. -/
theorem texts_shown :
    (∀ (width : Nat) (text : String),
      let shown := Padded.shown text
      let field := Padded.encode width text
      field.length = width ∧
        ((Utf8.encode shown).length ≤ width → Padded.decode field = String.ofList shown) ∧
        (width < (Utf8.encode shown).length →
          ∃ front, Utf8.LongestFront width shown front ∧
            Padded.decode field = String.ofList
              (if (Utf8.encode front).length = width then front else front ++ [Utf8.replacement]))) ∧
    ∀ (s : Session) (text : String), Reachable s → s.options.suffix = some text → '\x00' ∉ text.toList →
      ∀ events : List Event,
        let after := (events.foldl Event.apply s).scene
        ∃ attempts, Attempted s events attempts ∧
          (∀ i, (after.link i).messages.toList =
            (s.scene.link i).messages.toList ++ attempts.filterMap (Attempt.recorded? i)) ∧
          ∀ a ∈ attempts, (∀ message ∈ a.message, a.channel.codec.decode message = .ok a.command) ∧
            (a.command.Carries (.known .lockAction) → (∀ event ∈ events, ¬ event.Crafts a.command) →
              ∃ field ∈ a.command.payload.slice? 6 Request.suffixLength, Padded.decode field = text) := by
  constructor
  · intro width text shown field
    exact ⟨Padded.length_encode width text, Padded.decode_encode_of_fits, Padded.decode_encode_of_cut⟩
  · intro s text hs hsuffix hzero events after
    obtain ⟨attempts, hattempted⟩ := exists_attempted hs events
    refine ⟨attempts, hattempted, hattempted.attempts.messages, fun a ha => ?_⟩
    refine ⟨hattempted.attempts.decodes ha, fun hcarries hown => ?_⟩
    obtain ⟨code, challenge, hcommand⟩ := hattempted.acts ha hcarries hown
    refine ⟨Padded.encode Request.suffixLength text, ?_, ?_⟩
    · rw [hcommand, hsuffix]
      exact Request.slice?_actionPayload ..
    · exact Padded.decode_encode hzero (Options.length_suffix (Session.validate_of_reachable hs) hsuffix)

/-- A lock that answers with a challenge gets an action, and shows the suffix in it. -/
theorem texts_shown_facingLock :
    let key : Key := ⟨List.replicate 32 1, rfl⟩
    let credentials : Credentials := { authorization := 7, clientSecret := key, devicePublic := key }
    let user : Channel := ⟨0, Profile.smartLock.user, .smartLock, .sealed 7 credentials.sharedKey⟩
    let challenge := Command.of (.known .challenge) (List.replicate 32 0x11)
    let message := user.codec.message { bytes := [0x66] } challenge
    let s := Session.facingLock { suffix := some "Haustür" } credentials [[message], []]
    let unlock : Event := .call none [] (.errand (.lockAction (.known .unlock)))
    Reachable s ∧ ∃ attempts, Attempted s [unlock] attempts ∧
      ∃ a ∈ attempts, ∃ bytes ∈ a.message, user.codec.decode bytes = .ok a.command ∧
        a.command.Carries (.known .lockAction) ∧
        ∃ field ∈ a.command.payload.slice? 6 Request.suffixLength, Padded.decode field = "Haustür" := by
  intro key credentials user challenge message s unlock
  obtain ⟨hs, hoptions, huser, exposed, inbox, hserved⟩ :
      Reachable s ∧ s.options = { suffix := some "Haustür" } ∧ s.user = some user ∧
        ∃ exposed inbox, user.Served exposed [[message], []] inbox (s.begin none []).scene :=
    facingLock_spec rfl credentials [[message], []]
  have hsuffix : s.options.suffix = some "Haustür" := by rw [hoptions]
  have hsuits : (Errand.lockAction (.known .unlock)).Suits (s.begin none []) := by rfl
  -- From here on the session is one of which this is known.
  clear_value s
  obtain ⟨-, hactions⟩ := texts_shown
  obtain ⟨attempts, hattempted, -, hshown⟩ := hactions s "Haustür" hs hsuffix (by decide) [unlock]
  have hread : user.codec.decode message = .ok challenge := user.codec.decode_message { bytes := [0x66] } (by decide)
  obtain ⟨a, ha, hcommand, bytes, hbytes, hsent⟩ :=
    hattempted.request_of_served hsuits huser hserved hread rfl (by decide) (by rw [hoptions]; decide)
  have hcarries : a.command.Carries (.known .lockAction) := by
    rw [hcommand]
    rfl
  refine ⟨hs, attempts, hattempted, a, ha, bytes, hbytes, hsent, hcarries, (hshown a ha).2 hcarries ?_⟩
  rw [List.forall_mem_singleton]
  exact id

end Latchkey
