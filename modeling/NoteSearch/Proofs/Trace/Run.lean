import NoteSearch.Proofs.FirstSeen
import NoteSearch.Proofs.Text.Hex
import NoteSearch.Trace.Span

/-!
# Runs of traced calls

What is relied on of the ids of spans, which holds of ids in order; what becomes of a context that is
pointed at a span; and what a run that is settled or followed by another one leaves behind.
-/

namespace NoteSearch.Trace

/-- What is relied on of the ids of spans: they are valid, no two spans share theirs, and a span inside
of another one is in its trace. -/
structure IdSource.Lawful (source : IdSource) : Prop where
  isValid : ∀ {parent : Option Ids}, parent.all Ids.isValid →
    ∀ spanCount, (source parent spanCount).isValid
  eq_of_span_eq : ∀ {parent parent' : Option Ids} {m n : Nat},
    (source parent m).span = (source parent' n).span → m = n
  trace_eq : ∀ {parent : Ids}, parent.isValid → ∀ spanCount,
    (source (some parent) spanCount).trace = parent.trace

theorem Ids.lawful_fresh : IdSource.Lawful Ids.fresh where
  isValid {parent} hparent spanCount := by
    have hspan := Text.any_ne_zero_hex 16 (Nat.succ_ne_zero spanCount)
    have htrace : ((parent.map Ids.trace).getD (Text.hex 32 (spanCount + 1))).any (· != '0') := by
      cases parent with
      | none => exact Text.any_ne_zero_hex 32 (Nat.succ_ne_zero spanCount)
      | some p => exact ((Bool.and_eq_true _ _).mp hparent).1
    rw [Ids.isValid, fresh, htrace, hspan]
    rfl
  eq_of_span_eq heq := Nat.succ.inj (Text.hex_injective 16 heq)
  trace_eq _ _ := rfl

/-! ### Pointing the context at a span -/

theorem others_assign {key : String} (hkey : key = traceKey ∨ key = spanKey) (value : Json)
    (context : Context) : others (assign key value context) = others context := by
  have hdropped : (key != traceKey && key != spanKey) = false := by
    rcases hkey with rfl | rfl <;> rfl
  induction context with
  | nil => simp [assign, others, hdropped]
  | cons entry rest ih =>
      obtain ⟨other, old⟩ := entry
      rw [assign]
      split
      · next heq =>
          obtain rfl := eq_of_beq heq
          simp [others, hdropped]
      · rw [others, others, List.filter_cons, List.filter_cons, ← others, ih, ← others]

section

variable {ids : Ids} (hids : ids.isValid) (context : Context)
include hids

theorem lookup_traceKey_bindSpan : (bindSpan ids context).lookup traceKey = some (.str ids.trace) := by
  rw [bindSpan, if_pos hids, pointAt, lookup_assign, lookup_assign]
  rfl

theorem lookup_spanKey_bindSpan : (bindSpan ids context).lookup spanKey = some (.str ids.span) := by
  rw [bindSpan, if_pos hids, pointAt, lookup_assign]
  rfl

theorem others_bindSpan : others (bindSpan ids context) = others context := by
  rw [bindSpan, if_pos hids, pointAt, others_assign (.inr rfl), others_assign (.inl rfl)]

end

/-! ### After a call -/

namespace Run

variable (run first second : Run)

@[simp] theorem spans_settled : run.settled.spans = run.spans := by
  unfold settled
  split <;> rfl

@[simp] theorem moments_settled : run.settled.moments
    = run.moments ++ (run.failure.map fun failure => (.caught failure.kind, run.context)).toList := by
  unfold settled
  cases run.failure <;> simp

@[simp] theorem spanCount_andThen : (first.andThen second).spanCount = second.spanCount := rfl

@[simp] theorem failure_andThen : (first.andThen second).failure = second.failure := rfl

@[simp] theorem spans_andThen : (first.andThen second).spans = first.spans ++ second.spans := rfl

@[simp] theorem moments_andThen :
    (first.andThen second).moments = first.moments ++ second.moments := rfl

end Run

/-! ### Numbers of spans -/

variable (source : IdSource)

mutual

theorem lt_spanCount_runWith (parent : Option Ids) (context : Context) (spanCount : Nat) :
    ∀ call : Call, spanCount < (call.runWith source parent context spanCount).spanCount
  | .call _ _ _ inner _ _ =>
      le_spanCount_runCallsWith _ _ (spanCount + 1) inner

theorem le_spanCount_runCallsWith (parent : Option Ids) (context : Context) (spanCount : Nat) :
    ∀ calls : List Call, spanCount ≤ (runCallsWith source parent context spanCount calls).spanCount
  | [] => Nat.le_refl spanCount
  | call :: rest => by
      have hfirst := lt_spanCount_runWith parent context spanCount call
      simp only [runCallsWith]
      split
      · exact Nat.le_of_lt hfirst
      · exact Nat.le_trans (Nat.le_of_lt hfirst) (le_spanCount_runCallsWith parent _ _ rest)

end

end NoteSearch.Trace
