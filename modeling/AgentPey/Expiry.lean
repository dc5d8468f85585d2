import AgentPey.Traces
import Mathlib.Order.Basic

/-!
A memory of what lasts for a while. Each call drops what has expired, and then adds something that depends on what is left
and on the call. When the times of the calls never go back, the memory holds whatever is live of all that was ever added.
-/
namespace AgentPey.Expiry
variable {α β : Type} (live : Int → α → Bool) (time : β → Int) (add : List α → β → List α)

/-- What has expired stays so. -/
def Lapses : Prop := ∀ now later a, now ≤ later → live later a = true → live now a = true

/-- A call, with what it adds. -/
def remember (memory : List α) (call : β) : List α × List α :=
  (memory.filter (live (time call)) ++ add (memory.filter (live (time call))) call,
    add (memory.filter (live (time call))) call)

variable {live time add}

variable {now : Int}

theorem filter_later (lapses : Lapses live) {later : Int} (after : now ≤ later) (xs : List α) :
    (xs.filter (live now)).filter (live later) = xs.filter (live later) := by
  rw [List.filter_filter]
  refine List.filter_congr fun a _ => ?_
  rw [Bool.and_eq_left_iff_imp]
  exact lapses now later a after

theorem exec_snoc (calls : List β) (call : β) : Traces.exec (remember live time add) [] (calls ++ [call]) =
    ((remember live time add (Traces.exec (remember live time add) [] calls).1 call).1,
      (Traces.exec (remember live time add) [] calls).2 ++
        (remember live time add (Traces.exec (remember live time add) [] calls).1 call).2) := by
  rw [Traces.exec_append, Traces.exec_cons, Traces.exec_nil, List.append_nil]

/-- The memory and the log have the same live entries from the last call on. -/
theorem kept_run (lapses : Lapses live) {calls : List β} (ordered : calls.Pairwise fun a b => time a ≤ time b)
    (after : ∀ call ∈ calls, time call ≤ now) : (Traces.exec (remember live time add) [] calls).1.filter (live now) =
      (Traces.exec (remember live time add) [] calls).2.filter (live now) := by
  induction calls using List.reverseRec generalizing now with
  | nil => rfl
  | append_singleton before call ih =>
    obtain ⟨earlier, _, last⟩ := List.pairwise_append.mp ordered
    have then_ := ih earlier fun other among => last other among call (List.mem_singleton_self call)
    have passed : time call ≤ now := after call (List.mem_append_right _ (List.mem_singleton_self call))
    rw [exec_snoc]
    simp only [remember, List.filter_append]
    rw [then_, filter_later lapses passed]

end AgentPey.Expiry
