import Latchkey.Proofs.Connections

/-!
# Exchanges

In an exchange a command is sent and the first reply with a certain id is read. Everything a client asks of
a device is a sequence of exchanges.
-/

namespace Latchkey

/-- The command was sent, and the first command with this id to be delivered from then on came in time. -/
def Channel.Answered (ch : Channel) (timeout : Span) (c : Command) (name : CommandName) (reply : Command)
    (s s' : Scene) : Prop :=
  ∃ sent, ch.send c s = (.ok (), sent) ∧ ch.firstReply? name sent = some reply ∧
    ch.waitFor (.known name) timeout sent = (.ok reply, s')

theorem Channel.Answered.carries {ch : Channel} {timeout : Span} {c : Command} {name : CommandName}
    {reply : Command} {s s' : Scene} (h : ch.Answered timeout c name reply s s') :
    reply.Carries (.known name) := by
  obtain ⟨sent, _, _, hwait⟩ := h
  exact (Channel.waitFor_ok hwait).1

theorem Channel.Answered.sent {ch : Channel} {timeout : Span} {c : Command} {name : CommandName}
    {reply : Command} {s s' : Scene} (hlink : ch.link < s.links.length) (htidy : s.Tidy)
    (h : ch.Answered timeout c name reply s s') : ch.Sent [c] s s' := by
  obtain ⟨sent, hsend, -, hwait⟩ := h
  have hquiet := ch.quiet_waitFor (.known name) timeout sent
  rw [hwait] at hquiet
  exact (Channel.sent_of_send hlink htidy hsend).append_quiet hquiet

theorem Channel.Answered.agenda {ch : Channel} {timeout : Span} {c : Command} {name : CommandName}
    {reply : Command} {s s' : Scene} (h : ch.Answered timeout c name reply s s') : s'.agenda <:+ s.agenda := by
  obtain ⟨sent, hsend, -, hwait⟩ := h
  have hinstant := ch.instant_send c s
  have hlistened := ch.agenda_listen (ch.hearFor (.known name)) timeout () sent
  rw [hsend] at hinstant
  rw [Channel.waitFor_eq, Prod.mk.injEq] at hwait
  rw [hwait.2, hinstant.agenda] at hlistened
  exact hlistened

theorem Channel.Answered.not_cancelled {ch : Channel} {timeout : Span} {c reply : Command}
    {name : CommandName} {s s' : Scene} (hlink : ch.link < s.links.length) (htidy : s.Tidy)
    (h : ch.Answered timeout c name reply s s') : s.cancelled = false := by
  obtain ⟨sent, hsend, -, hwait⟩ := h
  obtain ⟨messages, hwrote, -⟩ := (Channel.sent_of_send hlink htidy hsend).decoded
  cases hcancelled : s.cancelled with
  | false => rfl
  | true =>
    rw [ch.waitFor_cancelled _ _ (hwrote.cancelled hcancelled)] at hwait
    cases hwait

namespace Session

variable {α : Type} {s : Session}

theorem userChannel_of_some {user : Channel} (h : s.user = some user) :
    userChannel s = (.ok user, s) := by
  rw [userChannel, run_bind, run_get]
  simp only [h]
  rfl

/-- Why there is no user channel to be used. -/
def missing (s : Session) : Failure := if s.link.isNone then .notConnected else .notAuthenticated

theorem userChannel_of_none (h : s.user = none) : userChannel s = (.error s.missing, s) := by
  rw [userChannel, run_bind, run_get]
  simp only [h]
  rfl

/-- What is wrong if there is no user channel to a device of this family. -/
def unsuited? (required : Family) (s : Session) : Option Failure :=
  match s.user with
  | none => some s.missing
  | some user =>
    if user.family = required then none else some (.unsupportedFamily required user.family)

theorem run_requireFamily (required : Family) (s : Session) :
    requireFamily required s =
      match s.unsuited? required with
      | some e => (.error e, s)
      | none => (.ok (), s) := by
  rw [requireFamily, run_bind, unsuited?]
  cases huser : s.user with
  | none =>
    rw [userChannel_of_none huser]
  | some user =>
    rw [userChannel_of_some huser]
    by_cases hfamily : user.family = required
    · simp [hfamily]
      rfl
    · simp [hfamily]
      rfl

theorem run_waitStep (name : String) (ch : Channel) (id : CommandName) (s : Session) :
    waitStep name ch id s =
      ((ch.waitFor (.known id) s.options.timeout s.scene).1.mapError (Failure.during name),
        { s with scene := (ch.waitFor (.known id) s.options.timeout s.scene).2 }) := rfl

theorem run_sendStep (name : String) (ch : Channel) (c : Command) (s : Session) :
    sendStep name ch c s =
      ((ch.send c s.scene).1.mapError (Failure.during name),
        { s with scene := (ch.send c s.scene).2 }) := rfl

section Steps

variable {ch : Channel} {c : Command} {id : CommandName} {scene : Scene} {e : Failure}

theorem sendStep_of_ok (name : String) (h : ch.send c s.scene = (.ok (), scene)) :
    sendStep name ch c s = (.ok (), { s with scene }) := by
  rw [run_sendStep, h]
  rfl

theorem sendStep_of_error (name : String) (h : ch.send c s.scene = (.error e, scene)) :
    sendStep name ch c s = (.error (.during name e), { s with scene }) := by
  rw [run_sendStep, h]
  rfl

theorem waitStep_of_ok (name : String)
    (h : ch.waitFor (.known id) s.options.timeout s.scene = (.ok c, scene)) :
    waitStep name ch id s = (.ok c, { s with scene }) := by
  rw [run_waitStep, h]
  rfl

theorem waitStep_of_error (name : String)
    (h : ch.waitFor (.known id) s.options.timeout s.scene = (.error e, scene)) :
    waitStep name ch id s = (.error (.during name e), { s with scene }) := by
  rw [run_waitStep, h]
  rfl

end Steps

theorem run_readStep (name : String) (layout : Layout α) (c : Command) (s : Session) :
    readStep name layout c s =
      ((layout.read c).mapError fun e => .during name (.wire e), s) := by
  rw [readStep, Act.run_step, Act.ofWire, Act.run_settle]
  cases layout.read c with
  | ok report => rfl
  | error e => rfl

/-- What is made of a command that has to be a certain status. -/
def statusVerdict (c : Command) (expected : Completion) : Except Failure Unit :=
  match statusReport.read c with
  | .error e => .error (.wire e)
  | .ok got =>
    if got = .known expected then .ok () else .error (.unexpectedStatus (.known expected) got)

theorem expectStatus_eq (name : String) (c : Command) (expected : Completion) :
    expectStatus name c expected = Act.step name (Act.settle (statusVerdict c expected)) := by
  funext s
  rw [expectStatus, Act.run_step, Act.run_step, Act.run_settle, statusVerdict]
  cases statusReport.read c with
  | error e => rfl
  | ok got =>
    have hread : Act.ofWire (.ok got) s = (.ok got, s) := rfl
    rw [run_bind_ok hread]
    by_cases hgot : got = .known expected
    · rw [if_neg (not_not_intro hgot)]
      simp only [if_pos hgot]
      rfl
    · rw [if_pos hgot]
      simp only [if_neg hgot]
      rfl

theorem statusVerdict_ok {c : Command} {expected : Completion} :
    statusVerdict c expected = .ok () ↔ statusReport.read c = .ok (.known expected) := by
  rw [statusVerdict]
  cases statusReport.read c with
  | error e => simp
  | ok got => simp

/-- Sends a command, waits for the reply and reads it. -/
def exchange (sending waiting reading : String) (layout : Layout α) (ch : Channel) (c : Command) :
    Act α := do
  sendStep sending ch c
  let reply ← waitStep waiting ch layout.name
  readStep reading layout reply

section Exchange

variable {sending waiting reading : String} {layout : Layout α} {ch : Channel} {c : Command}

private theorem exchange_of_sent {sent : Scene} (h : ch.send c s.scene = (.ok (), sent)) :
    exchange sending waiting reading layout ch c s =
      (waitStep waiting ch layout.name >>= readStep reading layout) { s with scene := sent } := by
  rw [exchange, run_bind_ok (sendStep_of_ok sending h)]

theorem exchange_of_answered (sending waiting reading : String) (layout : Layout α) {reply : Command}
    {scene : Scene}
    (h : ch.Answered s.options.timeout c layout.name reply s.scene scene) :
    exchange sending waiting reading layout ch c s =
      ((layout.read reply).mapError fun e => .during reading (.wire e), { s with scene }) := by
  obtain ⟨sent, hsend, -, hwait⟩ := h
  have hwaited := waitStep_of_ok (s := { s with scene := sent }) waiting hwait
  rw [exchange_of_sent hsend, run_bind_ok hwaited, run_readStep]

theorem exchange_of_read (sending waiting reading : String) (layout : Layout α) {reply : Command}
    {report : α} {scene : Scene}
    (h : ch.Answered s.options.timeout c layout.name reply s.scene scene)
    (hread : layout.read reply = .ok report) :
    exchange sending waiting reading layout ch c s = (.ok report, { s with scene }) := by
  rw [exchange_of_answered sending waiting reading layout h, hread]
  rfl

/-- An exchange sends its command or nothing, and it succeeds only with a reply that can be read. -/
theorem exchange_cases (sending waiting reading : String) (layout : Layout α) (c : Command)
    (hlink : ch.link < s.scene.links.length) (htidy : s.scene.Tidy) :
    (∃ e commands scene, exchange sending waiting reading layout ch c s = (.error e, { s with scene }) ∧
        commands <+: [c] ∧ ch.Sent commands s.scene scene) ∨
      ∃ reply report scene,
        exchange sending waiting reading layout ch c s = (.ok report, { s with scene }) ∧
          ch.Answered s.options.timeout c layout.name reply s.scene scene ∧
          layout.read reply = .ok report ∧ ch.Sent [c] s.scene scene := by
  rcases ch.send_cases c hlink htidy with ⟨sent, hsend, hsent⟩ | ⟨e, sent, hsend, hquiet⟩
  · have hquiet := ch.quiet_waitFor (.known layout.name) s.options.timeout sent
    rcases hwait : ch.waitFor (.known layout.name) s.options.timeout sent with ⟨e | reply, scene⟩
    all_goals rw [hwait] at hquiet
    · have hfailed := waitStep_of_error (s := { s with scene := sent }) waiting hwait
      rw [exchange_of_sent hsend]
      exact .inl ⟨_, [c], scene, run_bind_error hfailed, List.prefix_refl _,
        hsent.append_quiet hquiet⟩
    · have hanswered : ch.Answered s.options.timeout c layout.name reply s.scene scene :=
        ⟨sent, hsend, (Channel.waitFor_ok hwait).2, hwait⟩
      rw [exchange_of_answered sending waiting reading layout hanswered]
      cases hread : layout.read reply with
      | error e =>
        exact .inl ⟨_, [c], scene, rfl, List.prefix_refl _, hsent.append_quiet hquiet⟩
      | ok report =>
        exact .inr ⟨reply, report, scene, rfl, hanswered, hread, hsent.append_quiet hquiet⟩
  · exact .inl ⟨_, [], sent, run_bind_error (sendStep_of_error sending hsend), List.nil_prefix,
      ch.sent_of_quiet hquiet⟩

end Exchange

end Session

end Latchkey
