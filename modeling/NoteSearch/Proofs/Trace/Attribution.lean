import Mathlib.Data.List.Nodup
import NoteSearch.Proofs.Trace.Run

/-!
# Which spans fail

A call fails with the first failure that is not caught among the calls that it makes, or else with its
own. Every span that is entered is exported once, after the spans of the calls inside and before the one
around it, and it reports the error that leaves its call. Calls after a failure that is not caught are
not entered, and a caught failure changes nothing further out. An interruption takes the same way as an
error, but no span reports it.
-/

namespace NoteSearch.Trace

mutual

def Call.escape : Call → Option Failure
  | .call _ _ _ inner failure _ => (uncaught inner).or failure

/-- The first failure of some calls that is not caught. -/
def uncaught : List Call → Option Failure
  | [] => none
  | call :: rest => (if call.isCaught then none else call.escape).or (uncaught rest)

end

theorem uncaught_eq_findSome? (calls : List Call) :
    uncaught calls = (calls.filter fun call => !call.isCaught).findSome? Call.escape := by
  induction calls with
  | nil => rfl
  | cons call rest ih =>
      rw [uncaught, ih]
      cases hcaught : call.isCaught with
      | true => simp [hcaught]
      | false =>
          simp only [Bool.false_eq_true, if_false, List.filter_cons, hcaught, Bool.not_false, if_true,
            List.findSome?_cons]
          cases call.escape <;> rfl

/-- Some calls up to the first failure that is not caught. -/
def reached : List Call → List Call
  | [] => []
  | call :: rest => if call.escape.isSome && !call.isCaught then [call] else call :: reached rest

/-- A span has failed, and with a given error, if that error leaves its call. -/
structure Span.Reports (span : Span) (failure? : Option Failure) : Prop where
  failed_iff : (∃ description, span.status = .error description) ↔ failure?.any Failure.isError
  mem_events_iff : ∀ failure, failure ∈ span.events ↔ failure? = some failure ∧ failure.isError

mutual

/-- What a call exports inside a span: what the calls export that it reaches, inside its own span, and
then this span. -/
inductive Exports : Option Ids → Call → List Span → Prop
  | call {parent : Option Ids} {name : Text} {kind : SpanKind} {attributes : List (String × Json)}
      {inner : List Call} {failure : Option Failure} {caught : Bool} {spans : List Span} (span : Span)
      (hname : span.name = name) (hparent : span.parent = parent)
      (hreports : span.Reports (Call.call name kind attributes inner failure caught).escape)
      (hinner : ExportsAll (some span.ids) (reached inner) spans) :
      Exports parent (.call name kind attributes inner failure caught) (spans ++ [span])

inductive ExportsAll : Option Ids → List Call → List Span → Prop
  | nil {parent : Option Ids} : ExportsAll parent [] []
  | cons {parent : Option Ids} {call : Call} {rest : List Call} {spans later : List Span}
      (hcall : Exports parent call spans) (hrest : ExportsAll parent rest later) :
      ExportsAll parent (call :: rest) (spans ++ later)

end

/-! ### The order of spans -/

/-- Every span is inside of `parent` or of another one of the spans. -/
def Linked (parent : Option Ids) (spans : List Span) : Prop :=
  ∀ s ∈ spans, s.parent = parent ∨ ∃ outer ∈ spans, s.parent = some outer.ids

theorem Linked.mono {parent : Option Ids} {spans all : List Span} (hlinked : Linked parent spans)
    (hsubset : spans ⊆ all) :
    ∀ s ∈ spans, s.parent = parent ∨ ∃ outer ∈ all, s.parent = some outer.ids := by
  intro s hs
  rcases hlinked s hs with hparent | ⟨outer, houter, hparent⟩
  · exact .inl hparent
  · exact .inr ⟨outer, hsubset houter, hparent⟩

mutual

theorem Exports.linked {parent : Option Ids} {call : Call} {spans : List Span} :
    Exports parent call spans → Linked parent spans
  | .call span _ hparent _ hinner => by
      intro s hs
      rcases List.mem_append.mp hs with hs | hs
      · rcases hinner.linked.mono (List.subset_append_left _ _) s hs with hspan | houter
        · exact .inr ⟨span, List.mem_append_right _ List.mem_cons_self, hspan⟩
        · exact .inr houter
      · obtain rfl := List.mem_singleton.mp hs
        exact .inl hparent

theorem ExportsAll.linked {parent : Option Ids} {calls : List Call} {spans : List Span} :
    ExportsAll parent calls spans → Linked parent spans
  | .nil => fun _ hs => absurd hs List.not_mem_nil
  | .cons hcall hrest => by
      intro s hs
      rcases List.mem_append.mp hs with hs | hs
      · exact hcall.linked.mono (List.subset_append_left _ _) s hs
      · exact hrest.linked.mono (List.subset_append_right _ _) s hs

end

/-- Spans come before those that they are inside of. -/
def InnerFirst (spans : List Span) : Prop :=
  spans.Pairwise fun earlier later => later.parent ≠ some earlier.ids

mutual

theorem Exports.innerFirst {parent : Option Ids} {call : Call} {spans : List Span} :
    Exports parent call spans → (spans.map Span.ids).Nodup → (∀ s ∈ spans, parent ≠ some s.ids) →
      InnerFirst spans
  | .call span _ hparent _ hinner => by
      intro hnodup hfresh
      rw [List.map_append] at hnodup
      obtain ⟨hdistinct, -, hapart⟩ := List.nodup_append.mp hnodup
      refine List.pairwise_append.mpr ⟨?_, List.pairwise_singleton _ _, ?_⟩
      · apply hinner.innerFirst hdistinct
        intro s hs heq
        have hsame := Option.some.inj heq
        exact hapart s.ids (List.mem_map_of_mem hs) span.ids List.mem_cons_self hsame.symm
      · intro earlier hearlier later hlater
        obtain rfl := List.mem_singleton.mp hlater
        rw [hparent]
        exact hfresh earlier (List.mem_append_left _ hearlier)

theorem ExportsAll.innerFirst {parent : Option Ids} {calls : List Call} {spans : List Span} :
    ExportsAll parent calls spans → (spans.map Span.ids).Nodup → (∀ s ∈ spans, parent ≠ some s.ids) →
      InnerFirst spans
  | .nil => fun _ _ => .nil
  | .cons hcall hrest => by
      intro hnodup hfresh
      rw [List.map_append] at hnodup
      obtain ⟨hfirst, hlast, hapart⟩ := List.nodup_append.mp hnodup
      refine List.pairwise_append.mpr ⟨?_, ?_, ?_⟩
      · exact hcall.innerFirst hfirst fun s hs => hfresh s (List.mem_append_left _ hs)
      · exact hrest.innerFirst hlast fun s hs => hfresh s (List.mem_append_right _ hs)
      · intro earlier hearlier later hlater hinside
        rcases hrest.linked later hlater with hparent | ⟨outer, houter, hparent⟩
        · exact hfresh earlier (List.mem_append_left _ hearlier) (hparent.symm.trans hinside)
        · have hsame := Option.some.inj (hparent.symm.trans hinside)
          exact hapart earlier.ids (List.mem_map_of_mem hearlier) outer.ids
            (List.mem_map_of_mem houter) hsame.symm

end

/-! ### The ids of spans -/

/-- The spans have ids of their own, given out after `first` spans and before `last`. -/
structure Issued (source : IdSource) (first last : Nat) (spans : List Span) : Prop where
  number : ∀ s ∈ spans, ∃ parent n, s.ids = source parent n ∧ first ≤ n ∧ n < last
  nodup : (spans.map fun s => s.ids.span).Nodup

theorem issued_nil (source : IdSource) (first last : Nat) : Issued source first last [] :=
  ⟨fun _ hs => absurd hs List.not_mem_nil, List.nodup_nil⟩

theorem issued_singleton {source : IdSource} {span : Span} {parent : Option Ids} {n : Nat}
    (hids : span.ids = source parent n) : Issued source n (n + 1) [span] where
  number s hs := by
    obtain rfl := List.mem_singleton.mp hs
    exact ⟨parent, n, hids, Nat.le_refl n, Nat.lt_succ_self n⟩
  nodup := List.pairwise_singleton _ _

theorem Issued.perm {source : IdSource} {first last : Nat} {spans spans' : List Span}
    (hissued : Issued source first last spans) (hperm : spans.Perm spans') :
    Issued source first last spans' where
  number s hs := hissued.number s (hperm.mem_iff.mpr hs)
  nodup := (hperm.map _).nodup_iff.mp hissued.nodup

section

variable {source : IdSource} (hsource : source.Lawful)
include hsource

theorem Issued.append {first middle last : Nat} {earlier later : List Span}
    (hearlier : Issued source first middle earlier) (hlater : Issued source middle last later)
    (hfirst : first ≤ middle) (hlast : middle ≤ last) :
    Issued source first last (earlier ++ later) where
  number s hs := by
    rcases List.mem_append.mp hs with hs | hs
    · obtain ⟨parent, n, hids, hle, hlt⟩ := hearlier.number s hs
      exact ⟨parent, n, hids, hle, Nat.lt_of_lt_of_le hlt hlast⟩
    · obtain ⟨parent, n, hids, hle, hlt⟩ := hlater.number s hs
      exact ⟨parent, n, hids, Nat.le_trans hfirst hle, hlt⟩
  nodup := by
    rw [List.map_append]
    refine List.nodup_append.mpr ⟨hearlier.nodup, hlater.nodup, ?_⟩
    intro id hid id' hid' heq
    obtain ⟨s, hs, rfl⟩ := List.mem_map.mp hid
    obtain ⟨s', hs', rfl⟩ := List.mem_map.mp hid'
    obtain ⟨parent, n, hids, -, hn⟩ := hearlier.number s hs
    obtain ⟨parent', n', hids', hn', -⟩ := hlater.number s' hs'
    rw [hids, hids'] at heq
    have hsame := hsource.eq_of_span_eq heq
    omega

mutual

theorem issued_runWith (parent : Option Ids) (context : Context) (spanCount : Nat) :
    ∀ call : Call, Issued source spanCount (call.runWith source parent context spanCount).spanCount
      (call.runWith source parent context spanCount).spans
  | .call _ _ _ inner _ _ => by
      have hinner := issued_runCallsWith (some (source parent spanCount))
        (bindSpan (source parent spanCount) context) (spanCount + 1) inner
      have hcount := le_spanCount_runCallsWith source (some (source parent spanCount))
        (bindSpan (source parent spanCount) context) (spanCount + 1) inner
      -- The ids of the call's own span are given out first, though it is exported last.
      exact ((issued_singleton rfl).append hsource hinner (Nat.le_succ spanCount) hcount).perm
        List.perm_append_comm

theorem issued_runCallsWith (parent : Option Ids) (context : Context) (spanCount : Nat) :
    ∀ calls : List Call,
    Issued source spanCount (runCallsWith source parent context spanCount calls).spanCount
      (runCallsWith source parent context spanCount calls).spans
  | [] => issued_nil source spanCount spanCount
  | call :: rest => by
      have hfirst := issued_runWith parent context spanCount call
      have hcount := lt_spanCount_runWith source parent context spanCount call
      simp only [runCallsWith]
      split
      · exact hfirst
      · rw [Run.spanCount_andThen, Run.spans_andThen, Run.spans_settled]
        exact hfirst.append hsource (issued_runCallsWith parent _ _ rest) (Nat.le_of_lt hcount)
          (le_spanCount_runCallsWith source parent _ _ rest)

end

theorem issued_runRootsWith (context : Context) (spanCount : Nat) (calls : List Call) :
    Issued source spanCount (runRootsWith source context spanCount calls).2.spanCount
        (runRootsWith source context spanCount calls).2.spans ∧
      spanCount ≤ (runRootsWith source context spanCount calls).2.spanCount := by
  induction calls generalizing context spanCount with
  | nil => exact ⟨issued_nil source spanCount spanCount, Nat.le_refl spanCount⟩
  | cons call rest ih =>
      have hfirst := issued_runWith hsource none context spanCount call
      have hcount := Nat.le_of_lt (lt_spanCount_runWith source none context spanCount call)
      obtain ⟨hrest, hlast⟩ := ih (call.runWith source none context spanCount).context
        (call.runWith source none context spanCount).spanCount
      exact ⟨hfirst.append hsource hrest hcount hlast, Nat.le_trans hcount hlast⟩

end

/-! ### What runs leave behind -/

section

variable {source : IdSource}

mutual

theorem failure_runWith (parent : Option Ids) (context : Context) (spanCount : Nat) :
    ∀ call : Call, (call.runWith source parent context spanCount).failure = call.escape
  | .call _ _ _ inner failure _ =>
      congrArg (fun first => first.or failure) (failure_runCallsWith _ _ (spanCount + 1) inner)

theorem failure_runCallsWith (parent : Option Ids) (context : Context) (spanCount : Nat) :
    ∀ calls : List Call,
    (runCallsWith source parent context spanCount calls).failure = uncaught calls
  | [] => rfl
  | call :: rest => by
      have hfirst := failure_runWith parent context spanCount call
      simp only [runCallsWith, uncaught]
      split
      · next hends =>
          rw [Bool.and_eq_true, Bool.not_eq_true'] at hends
          rw [hfirst] at hends ⊢
          obtain ⟨failure, hfailure⟩ := Option.isSome_iff_exists.mp hends.1
          rw [hends.2, hfailure]
          rfl
      · next hgoes =>
          rw [Run.failure_andThen, failure_runCallsWith parent _ _ rest]
          rw [hfirst] at hgoes
          cases hcaught : call.isCaught with
          | true => rfl
          | false =>
              have hnone : call.escape = none := by simpa [hcaught] using hgoes
              rw [hnone]
              rfl

end

theorem reports_closeSpan (name : Text) (kind : SpanKind) (ids : Ids) (parent : Option Ids)
    (attributes : List (String × Json)) (failure? : Option Failure) :
    (closeSpan name kind ids parent attributes failure?).Reports failure? := by
  constructor
  · rw [← Option.isSome_filter, closeSpan]
    cases failure?.filter Failure.isError with
    | none => simp
    | some error => simp
  · intro failure
    rw [← Option.filter_eq_some_iff, closeSpan]
    cases failure?.filter Failure.isError with
    | none => simp
    | some error => simp [eq_comm]

mutual

theorem exports_runWith (parent : Option Ids) (context : Context) (spanCount : Nat) :
    ∀ call : Call, Exports parent call (call.runWith source parent context spanCount).spans
  | .call name kind attributes inner failure caught => by
      refine .call _ rfl rfl ?_ (exports_runCallsWith _ _ (spanCount + 1) inner)
      rw [Call.escape, ← failure_runCallsWith]
      exact reports_closeSpan _ _ _ _ _ _

theorem exports_runCallsWith (parent : Option Ids) (context : Context) (spanCount : Nat) :
    ∀ calls : List Call, ExportsAll parent (reached calls)
      (runCallsWith source parent context spanCount calls).spans
  | [] => .nil
  | call :: rest => by
      have hfirst := exports_runWith parent context spanCount call
      simp only [runCallsWith, reached, failure_runWith]
      split
      · rw [← List.append_nil (call.runWith source parent context spanCount).spans]
        exact .cons hfirst .nil
      · rw [Run.spans_andThen, Run.spans_settled]
        exact .cons hfirst (exports_runCallsWith parent _ _ rest)

end

/-- The spans that are entered, each with the span that the context then names. -/
def entered (moments : List (Moment × Context)) : List (Text × Option Json) :=
  moments.filterMap fun (moment, context) =>
    match moment with
    | .entered name => some (name, context.lookup spanKey)
    | _ => none

def identities (spans : List Span) : List (Text × Option Json) :=
  spans.map fun s => (s.name, some (.str s.ids.span))

theorem entered_append (earlier later : List (Moment × Context)) :
    entered (earlier ++ later) = entered earlier ++ entered later :=
  List.filterMap_append

theorem identities_append (earlier later : List Span) :
    identities (earlier ++ later) = identities earlier ++ identities later :=
  List.map_append

theorem entered_cons {ids : Ids} (hids : ids.isValid) (name : Text) (context : Context)
    (moments : List (Moment × Context)) :
    entered ((.entered name, bindSpan ids context) :: moments)
      = (name, some (.str ids.span)) :: entered moments := by
  rw [← lookup_spanKey_bindSpan hids context]
  rfl

theorem entered_left (failed : Bool) (name : Text) (context : Context) :
    entered (if failed then [] else [(.left name, context)]) = [] := by
  cases failed <;> rfl

theorem entered_settled (run : Run) : entered run.settled.moments = entered run.moments := by
  rw [Run.moments_settled, entered_append]
  cases run.failure <;> exact List.append_nil _

mutual

theorem entered_runWith (hsource : source.Lawful) {parent : Option Ids}
    (hparent : parent.all Ids.isValid) (context : Context) (spanCount : Nat) :
    ∀ call : Call,
    (entered (call.runWith source parent context spanCount).moments).Perm
      (identities (call.runWith source parent context spanCount).spans)
  | .call name kind attributes inner failure _ => by
      have hids := hsource.isValid hparent spanCount
      have hinner := entered_runCallsWith hsource (Option.all_some.trans hids)
        (bindSpan (source parent spanCount) context) (spanCount + 1) inner
      simp only [Call.runWith]
      rw [entered_append, entered_left, List.append_nil, identities_append, entered_cons hids]
      exact (hinner.cons _).trans (List.perm_append_singleton _ _).symm

theorem entered_runCallsWith (hsource : source.Lawful) {parent : Option Ids}
    (hparent : parent.all Ids.isValid) (context : Context) (spanCount : Nat) :
    ∀ calls : List Call,
    (entered (runCallsWith source parent context spanCount calls).moments).Perm
      (identities (runCallsWith source parent context spanCount calls).spans)
  | [] => .nil
  | call :: rest => by
      have hfirst := entered_runWith hsource hparent context spanCount call
      simp only [runCallsWith]
      split
      · exact hfirst
      · rw [Run.moments_andThen, Run.spans_andThen, entered_append, identities_append, entered_settled,
          Run.spans_settled]
        exact hfirst.append (entered_runCallsWith hsource hparent _ _ rest)

end

theorem entered_runRootsWith (hsource : source.Lawful) (context : Context) (spanCount : Nat)
    (calls : List Call) :
    (entered (runRootsWith source context spanCount calls).2.moments).Perm
      (identities (runRootsWith source context spanCount calls).2.spans) := by
  induction calls generalizing context spanCount with
  | nil => exact .nil
  | cons call rest ih =>
      have hfirst := entered_runWith hsource Option.all_none context spanCount call
      simp only [runRootsWith]
      rw [Run.moments_andThen, Run.spans_andThen, entered_append, identities_append]
      exact hfirst.append (ih _ _)

end

theorem exports_runRootsWith (source : IdSource) (context : Context) (spanCount : Nat)
    (calls : List Call) :
    (runRootsWith source context spanCount calls).1 = calls.map Call.escape ∧
      ExportsAll none calls (runRootsWith source context spanCount calls).2.spans := by
  induction calls generalizing context spanCount with
  | nil => exact ⟨rfl, .nil⟩
  | cons call rest ih =>
      obtain ⟨houtcomes, hspans⟩ := ih (call.runWith source none context spanCount).context
        (call.runWith source none context spanCount).spanCount
      refine ⟨?_, .cons (exports_runWith none context spanCount call) hspans⟩
      simp only [runRootsWith]
      rw [houtcomes, failure_runWith, List.map_cons]

/-- A forest of calls exports the spans that are entered, each once, after those of the calls inside and
before the one around it. What leaves a call is the failure of the first call inside that is not caught,
or its own, and the span of the call fails with it if it is an error. -/
theorem exports_entered_runRootsWith {source : IdSource} (hsource : source.Lawful) (context : Context)
    (spanCount : Nat) (calls : List Call) :
    let outcomes := (runRootsWith source context spanCount calls).1
    let run := (runRootsWith source context spanCount calls).2
    outcomes = calls.map Call.escape ∧
      ExportsAll none calls run.spans ∧
      (∀ name kind attributes inner failure caught,
        (Call.call name kind attributes inner failure caught).escape
          = ((inner.filter fun call => !call.isCaught).findSome? Call.escape).or failure) ∧
      (entered run.moments).Perm (identities run.spans) ∧
      (run.spans.map fun s => s.ids.span).Nodup ∧
      InnerFirst run.spans ∧
      ∀ s ∈ run.spans, ∀ ids, s.parent = some ids → ∃ outer ∈ run.spans, outer.ids = ids := by
  intro outcomes run
  obtain ⟨houtcomes, hexports⟩ := exports_runRootsWith source context spanCount calls
  have hnodup := (issued_runRootsWith hsource context spanCount calls).1.nodup
  have hdistinct : (run.spans.map Span.ids).Nodup :=
    List.Nodup.of_map Ids.span (by rwa [List.map_map])
  refine ⟨houtcomes, hexports, ?_, entered_runRootsWith hsource context spanCount calls, hnodup, ?_, ?_⟩
  · intro name kind attributes inner failure caught
    rw [Call.escape, uncaught_eq_findSome?]
  · exact hexports.innerFirst hdistinct fun _ _ => Option.some_ne_none _ |>.symm
  · intro s hs ids hparent
    rcases hexports.linked s hs with hroot | ⟨outer, houter, hinside⟩
    · exact absurd (hroot.symm.trans hparent) (by simp)
    · exact ⟨outer, houter, Option.some.inj (hinside.symm.trans hparent)⟩

/-- A call that makes one that fails and is caught, one that fails and one more, and a call that is
interrupted. -/
def failingCalls : List Call :=
  [.call "outer".toList .internal []
      [.call "first".toList .client [] [] (some { kind := "Missing", text := "key".toList }) true,
        .call "second".toList .client [] [] (some { kind := "Timeout", text := "late".toList }) false,
        .call "third".toList .client [] [] none false]
      (some { kind := "Broken", text := [] }) false,
    .call "alone".toList .server [] []
      (some { kind := "Interrupt", text := [], isError := false }) false]

theorem exports_entered_runRootsWith_failing :
    let missing : Failure := { kind := "Missing", text := "key".toList }
    let late : Failure := { kind := "Timeout", text := "late".toList }
    let interrupt : Failure := { kind := "Interrupt", text := [], isError := false }
    let outcomes := (runRootsWith Ids.fresh [] 0 failingCalls).1
    let run := (runRootsWith Ids.fresh [] 0 failingCalls).2
    Ids.fresh.Lawful ∧ outcomes = [some late, some interrupt] ∧
      (run.spans.map fun s => (s.name, s.events))
        = [("first".toList, [missing, missing]), ("second".toList, [late, late]),
          ("outer".toList, [late, late]), ("alone".toList, [])] ∧
      ExportsAll none failingCalls run.spans ∧ (entered run.moments).Perm (identities run.spans) ∧
      InnerFirst run.spans := by
  intro missing late interrupt outcomes run
  obtain ⟨-, hexports, -, hentered, -, hinner, -⟩ :=
    exports_entered_runRootsWith Ids.lawful_fresh [] 0 failingCalls
  exact ⟨Ids.lawful_fresh, rfl, rfl, hexports, hentered, hinner⟩

end NoteSearch.Trace
