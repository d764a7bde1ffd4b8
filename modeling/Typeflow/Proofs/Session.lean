import Typeflow.Arena.Unify
import Typeflow.Proofs.Ends

/-!
Sessions whose trace takes everything that is written to it. In such a session the steps of the
engine that only write to the trace can be passed over: they leave the arena as it is and do not
fail.
-/

namespace Typeflow

/-- Every write to the trace succeeds: nothing is switched on, or there is no limit. -/
def Trace.Accepting (trace : Trace) : Prop := trace.channels = [] ∨ trace.limit = none

theorem Trace.off_accepting : Trace.off.Accepting := Or.inl rfl

theorem Trace.write_accepting {trace : Trace} (h : trace.Accepting) (channel : Channel)
    (line : Text) : Ends (Trace.write channel line) trace (fun _ trace' => trace'.Accepting)
      fun _ _ => False := by
  have hfull : channel ∈ trace.channels → trace.isFull = false := by
    intro hchannel
    rcases h with hnone | hlimit
    · rw [hnone] at hchannel
      cases hchannel
    · simp [Trace.isFull, hlimit]
  unfold Ends Trace.write
  by_cases hchannel : channel ∈ trace.channels
  · simpa [hchannel, hfull hchannel, Trace.Accepting] using h
  · simpa [hchannel] using h

/-- The session is about this arena, and its trace accepts all writes. -/
structure Session.At (session : Session) (arena : Arena) : Prop where
  arena_eq : session.arena = arena
  accepting : session.trace.Accepting

namespace Unifier

variable {α : Type} {session : Session} {arena arena' : Arena}

theorem query_ends {ask : Query α} {good : α → Session → Prop} {bad : Failure → Session → Prop}
    (h : Ends ask session.arena (fun value arena => good value { session with arena })
      fun fault arena => bad (.fault fault) { session with arena }) :
    Ends (query ask) session good bad := by
  unfold Ends query
  cases hask : ask session.arena with
  | ok value arena => exact h.good_of_eq hask
  | error fault arena => exact h.bad_of_eq hask

/-- A question whose answer is known is answered, and the session goes on with the arena that
the question leaves. -/
theorem query_at {ask : Query α} {value : α} {bad : Failure → Session → Prop}
    (hs : session.At arena) (hask : ask arena = .ok value arena') :
    Ends (query ask) session (fun answer s' => value = answer ∧ s'.At arena') bad := by
  obtain ⟨rfl, haccepting⟩ := hs
  exact query_ends (Ends.of_eq_ok hask ⟨rfl, rfl, haccepting⟩)

theorem write_at {bad : Failure → Session → Prop} (hs : session.At arena) (channel : Channel)
    (line : Text) : Ends (write channel line) session (fun _ s' => s'.At arena) bad := by
  obtain ⟨rfl, haccepting⟩ := hs
  obtain ⟨_, trace, hwrite, haccepting'⟩ :=
    (Trace.write_accepting haccepting channel line).exists_ok
  have hsession : write channel line session = .ok () { session with trace } := by
    unfold write
    rw [hwrite]
  exact Ends.of_eq_ok hsession ⟨rfl, haccepting'⟩

end Unifier

end Typeflow
