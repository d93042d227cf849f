import Latchkey.Proofs.Listening
import Latchkey.Session.Enrolment
import Latchkey.Session.History

/-!
# What a client leaves alone

Most of what a client does touches nothing but its scene: waiting does not even write to it, and sending
leaves no message half written. A relation between the states before and after that has room for listening
and for sending holds over every exchange.
-/

namespace Latchkey.Session

variable {R : Session → Session → Prop} {α β : Type}

/-- The relation lasts, and it holds over listening. -/
structure Attentive (R : Session → Session → Prop) : Prop where
  lasting : Lasting R
  listens {σ α : Type} (ch : Channel) (hear : σ → Arrival → Heard σ α) (timeout : Span) (state : σ)
    (s : Session) : R s { s with scene := (ch.listen hear timeout state s.scene).2 }

/-- The relation lasts, and it holds over everything that an exchange is made of. -/
structure Talkative (R : Session → Session → Prop) : Prop extends Attentive R where
  sends (ch : Channel) (c : Command) : Keeps R (Act.onAir (ch.send c))
  draws (count : Nat) : Keeps R (Act.onAir (Radio.drawNonce count))

section Steps

theorem keeps_userChannel (hR : Lasting R) : Keeps R userChannel := by
  refine hR.bind hR.get fun s => ?_
  split
  · exact hR.pure _
  · exact hR.throw _

theorem keeps_readStep (hR : Lasting R) (name : String) (layout : Layout α) (c : Command) :
    Keeps R (readStep name layout c) := Act.keeps_step name (Act.keeps_settle hR _)

theorem keeps_expectStatus (hR : Lasting R) (name : String) (c : Command) (expected : Completion) :
    Keeps R (expectStatus name c expected) := by
  refine Act.keeps_step name (hR.bind (Act.keeps_settle hR _) fun got => ?_)
  split
  · exact hR.throw _
  · exact hR.pure _

theorem keeps_waitStep (hR : Attentive R) (name : String) (ch : Channel) (id : CommandName) :
    Keeps R (waitStep name ch id) := by
  refine hR.lasting.bind hR.lasting.get fun s => Act.keeps_step name fun s' => ?_
  rw [Act.run_onAir, Channel.waitFor_eq]
  exact hR.listens ch _ s.options.timeout () s'

theorem keeps_waitStep_bind (hR : Attentive R) (name : String) (ch : Channel) (id : CommandName)
    {next : Command → Act α} (hnext : ∀ c, Keeps R (next c)) :
    Keeps R (waitStep name ch id >>= next) := hR.lasting.bind (keeps_waitStep hR name ch id) hnext

theorem keeps_sendStep (hR : Talkative R) (name : String) (ch : Channel) (c : Command) :
    Keeps R (sendStep name ch c) := Act.keeps_step name (hR.sends ch c)

theorem keeps_sendStep_bind (hR : Talkative R) (name : String) (ch : Channel) (c : Command)
    {next : Unit → Act α} (hnext : ∀ u, Keeps R (next u)) :
    Keeps R (sendStep name ch c >>= next) := hR.lasting.bind (keeps_sendStep hR name ch c) hnext

theorem keeps_challenge (hR : Talkative R) : Keeps R challenge := by
  refine hR.lasting.bind (keeps_userChannel hR.lasting) fun user => ?_
  refine keeps_sendStep_bind hR _ user _ fun _ => ?_
  exact keeps_waitStep_bind hR.toAttentive _ user _ fun reply => keeps_readStep hR.lasting _ _ reply

end Steps

/-- The relation lasts and has room for scenes in which nothing has been written. -/
structure Airy (R : Session → Session → Prop) : Prop where
  lasting : Lasting R
  quiet {s : Session} {scene : Scene} (h : s.scene.Quiet scene) : R s { s with scene }

theorem Airy.attentive (hR : Airy R) : Attentive R where
  lasting := hR.lasting
  listens ch hear timeout state s := hR.quiet (ch.quiet_listen hear timeout state s.scene)

/-- The relation lasts and has room for scenes in which nothing is half written. -/
structure Settling (R : Session → Session → Prop) : Prop where
  lasting : Lasting R
  settled {s : Session} {scene : Scene} (h : s.scene.Settled scene) : R s { s with scene }

theorem Settling.airy (hR : Settling R) : Airy R := ⟨hR.lasting, fun h => hR.settled h.settled⟩

theorem Settling.talkative (hR : Settling R) : Talkative R where
  toAttentive := hR.airy.attentive
  sends ch c s := hR.settled (ch.settled_send c s.scene)
  draws count s := hR.airy.quiet (Radio.quiet_drawNonce count s.scene)

/-- Nothing has been written in the scene. -/
def Hushed (s s' : Session) : Prop := s.scene.Quiet s'.scene

theorem hushed_airy : Airy Hushed where
  lasting :=
    { refl := fun _ => Scene.quiet_lasting.refl _
      trans := fun h h' => Scene.quiet_lasting.trans h h' }
  quiet := fun h => h

end Latchkey.Session
