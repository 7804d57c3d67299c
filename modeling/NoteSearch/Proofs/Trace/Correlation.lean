import NoteSearch.Proofs.Trace.Run

/-!
# Which span the logging context names

The body of a call runs when it begins and again when a call that it has made is over. All that time the
context names the trace of the body's span and keeps its other fields. Its span is the one that was
entered last. So it is the body's own when the body begins, and not any more once an inner call has run:
nothing points the context back. The moments of a run see the context as it is at one of these points.
-/

namespace NoteSearch.Trace

/-- A point at which the body of a call runs. -/
structure Point where
  /-- The ids of the span around the body. -/
  ids : Ids
  /-- Whether the body begins; otherwise a call that it has made has ended or was caught. -/
  entering : Bool
  context : Context

/-- What logging relies on: the context names the span around the body. -/
structure Point.Correlated (start : Context) (point : Point) : Prop where
  trace : point.context.lookup traceKey = some (.str point.ids.trace)
  span : point.context.lookup spanKey = some (.str point.ids.span)
  others : others point.context = others start

section

variable (source : IdSource)

mutual

/-- The points of a call and of the calls inside of it, in the order in which they are reached. -/
def Call.points (parent : Option Ids) (context : Context) (spanCount : Nat) : Call → List Point
  | .call _ _ _ inner _ _ =>
      let ids := source parent spanCount
      let own := bindSpan ids context
      ⟨ids, true, own⟩ :: pointsOfCalls ids own (spanCount + 1) inner

def pointsOfCalls (ids : Ids) (context : Context) (spanCount : Nat) : List Call → List Point
  | [] => []
  | call :: rest =>
      let first := call.runWith source (some ids) context spanCount
      call.points (some ids) context spanCount ++
        if first.failure.isSome && !call.isCaught then []
        else ⟨ids, false, first.context⟩ :: pointsOfCalls ids first.context first.spanCount rest

end

def pointsOfRoots (context : Context) (spanCount : Nat) : List Call → List Point
  | [] => []
  | call :: rest =>
      let first := call.runWith source none context spanCount
      call.points source none context spanCount
        ++ pointsOfRoots first.context first.spanCount rest

end

/-- The last of some points at which a body begins. -/
def latest (points : List Point) : Option Point :=
  points.findRev? Point.entering

theorem latest_append (earlier later : List Point) :
    latest (earlier ++ later) = (latest later).or (latest earlier) := by
  rw [latest, latest, latest, List.findRev?_eq_find?_reverse, List.findRev?_eq_find?_reverse,
    List.findRev?_eq_find?_reverse, List.reverse_append, List.find?_append]

theorem latest_concat_of_not_entering {point : Point} (hpoint : point.entering = false)
    (points : List Point) : latest (points ++ [point]) = latest points := by
  have hsingle : latest [point] = none := by simp [latest, List.findRev?, hpoint]
  rw [latest_append, hsingle, Option.none_or]

theorem latest_concat_of_entering {point : Point} (hpoint : point.entering = true)
    (points : List Point) : latest (points ++ [point]) = some point := by
  have hsingle : latest [point] = some point := by simp [latest, List.findRev?, hpoint]
  rw [latest_append, hsingle, Option.some_or]

theorem mem_of_latest_eq_some {points : List Point} {point : Point}
    (hlatest : latest points = some point) : point ∈ points ∧ point.entering := by
  rw [latest, List.findRev?_eq_find?_reverse] at hlatest
  exact ⟨List.mem_reverse.mp (List.mem_of_find?_eq_some hlatest), List.find?_some hlatest⟩

theorem exists_latest_eq_some {points : List Point} {point : Point} (hmem : point ∈ points)
    (hentering : point.entering) : ∃ last, latest points = some last := by
  rw [← Option.isSome_iff_exists, latest, List.findRev?_eq_find?_reverse, List.find?_isSome]
  exact ⟨point, List.mem_reverse.mpr hmem, hentering⟩

/-! ### What a run leaves in the context -/

/-- Calls whose points are given have led from one context to another one. -/
structure Leads (start : Context) (points : List Point) (trace : Text) (stop : Context) : Prop where
  trace : stop.lookup traceKey = some (.str trace)
  span : stop.lookup spanKey = ((latest points).map fun p => .str p.ids.span).or (start.lookup spanKey)
  others : others stop = others start

theorem Leads.trans {start middle stop : Context} {earlier later : List Point} {trace trace' : Text}
    (hearlier : Leads start earlier trace middle) (hlater : Leads middle later trace' stop) :
    Leads start (earlier ++ later) trace' stop where
  trace := hlater.trace
  span := by
    rw [hlater.span, hearlier.span, latest_append, ← Option.or_assoc]
    cases latest later <;> rfl
  others := hlater.others.trans hearlier.others

theorem leads_of_entering {ids : Ids} (hids : ids.isValid) (context : Context) :
    Leads context [⟨ids, true, bindSpan ids context⟩] ids.trace (bindSpan ids context) where
  trace := lookup_traceKey_bindSpan hids context
  span := lookup_spanKey_bindSpan hids context
  others := others_bindSpan hids context

theorem Leads.resume {start stop : Context} {points : List Point} {trace : Text}
    (hleads : Leads start points trace stop) (ids : Ids) :
    Leads start (points ++ [⟨ids, false, stop⟩]) trace stop where
  trace := hleads.trace
  span := by rw [latest_concat_of_not_entering rfl, hleads.span]
  others := hleads.others

section

variable {source : IdSource} (hsource : source.Lawful)
include hsource

mutual

theorem leads_runWith {parent : Option Ids} (hparent : parent.all Ids.isValid) (context : Context)
    (spanCount : Nat) : ∀ call : Call,
    Leads context (call.points source parent context spanCount) (source parent spanCount).trace
      (call.runWith source parent context spanCount).context
  | .call _ _ _ inner _ _ => by
      have hids := hsource.isValid hparent spanCount
      have henter := leads_of_entering hids context
      rw [Call.points, ← List.singleton_append]
      exact henter.trans (leads_runCallsWith hids henter.trace (spanCount + 1) inner)

theorem leads_runCallsWith {ids : Ids} (hids : ids.isValid) {context : Context}
    (htrace : context.lookup traceKey = some (.str ids.trace)) (spanCount : Nat) :
    ∀ calls : List Call,
    Leads context (pointsOfCalls source ids context spanCount calls) ids.trace
      (runCallsWith source (some ids) context spanCount calls).context
  | [] => ⟨htrace, rfl, rfl⟩
  | call :: rest => by
      have hfirst := leads_runWith (Option.all_some.trans hids) context spanCount call
      rw [hsource.trace_eq hids] at hfirst
      simp only [pointsOfCalls, runCallsWith]
      split
      · rw [List.append_nil]
        exact hfirst
      · rw [List.append_cons]
        exact (hfirst.resume ids).trans (leads_runCallsWith hids hfirst.trace _ rest)

end

end

/-! ### What the context names at a point -/

section

variable {source : IdSource}

/-- A point comes after others, and the context has been led there from a start. -/
structure Point.Follows (source : IdSource) (start : Context) (before : List Point) (point : Point) :
    Prop where
  leads : Leads start (before ++ [point]) point.ids.trace point.context
  /-- Where a call is over, the span entered last got its ids after the one around the body. -/
  inner : point.entering = false → ∃ last parent parent' m n, latest before = some last ∧
    point.ids = source parent m ∧ last.ids = source parent' n ∧ m < n

/-- The invariant of a run: every point follows those before it. -/
def Tracks (source : IdSource) (start : Context) (points : List Point) : Prop :=
  ∀ before point after, points = before ++ point :: after → point.Follows source start before

theorem tracks_nil (source : IdSource) (start : Context) : Tracks source start [] := by
  intro before point after heq
  exact absurd heq.symm (List.append_ne_nil_of_right_ne_nil before (List.cons_ne_nil point after))

theorem Tracks.append {start middle : Context} {earlier later : List Point} {trace : Text}
    (hearlier : Tracks source start earlier) (hleads : Leads start earlier trace middle)
    (hlater : Tracks source middle later) : Tracks source start (earlier ++ later) := by
  intro before point after heq
  have hlate : ∀ between, before = earlier ++ between → later = between ++ point :: after →
      point.Follows source start before := by
    rintro between rfl hpoints
    have hfollows := hlater between point after hpoints
    refine ⟨?_, fun hover => ?_⟩
    · rw [List.append_assoc]
      exact hleads.trans hfollows.leads
    · obtain ⟨last, parent, parent', m, n, hlast, hnumbers⟩ := hfollows.inner hover
      exact ⟨last, parent, parent', m, n, by rw [latest_append, hlast, Option.some_or], hnumbers⟩
  rcases List.append_eq_append_iff.mp heq with ⟨between, hbefore, hpoints⟩ | ⟨between, hpoints, hrest⟩
  · exact hlate between hbefore hpoints
  · cases between with
    | nil => exact hlate [] (by simpa using hpoints.symm) hrest.symm
    | cons first between =>
        obtain ⟨rfl, -⟩ := List.cons.inj hrest
        exact hearlier before point between hpoints

theorem Tracks.concat {start : Context} {points : List Point} {point : Point}
    (htracks : Tracks source start points) (hfollows : point.Follows source start points) :
    Tracks source start (points ++ [point]) := by
  intro before other after heq
  rcases List.eq_nil_or_concat after with rfl | ⟨after, last, rfl⟩
  · obtain ⟨rfl, hlast⟩ := List.append_inj' heq rfl
    obtain ⟨rfl, -⟩ := List.cons.inj hlast
    exact hfollows
  · rw [List.concat_eq_append, ← List.cons_append, ← List.append_assoc] at heq
    exact htracks before other after (List.append_inj_left' heq rfl)

mutual

theorem le_number_of_mem_points (parent : Option Ids) (context : Context) (spanCount : Nat) :
    ∀ call : Call, ∀ point ∈ call.points source parent context spanCount, point.entering →
      ∃ outer n, point.ids = source outer n ∧ spanCount ≤ n
  | .call _ _ _ inner _ _, point, hmem, hentering => by
      rw [Call.points] at hmem
      rcases List.mem_cons.mp hmem with rfl | hinner
      · exact ⟨parent, spanCount, rfl, Nat.le_refl spanCount⟩
      · obtain ⟨outer, n, hids, hn⟩ :=
          le_number_of_mem_pointsOfCalls _ _ (spanCount + 1) inner point hinner hentering
        exact ⟨outer, n, hids, Nat.le_of_succ_le hn⟩

theorem le_number_of_mem_pointsOfCalls (ids : Ids) (context : Context) (spanCount : Nat) :
    ∀ calls : List Call, ∀ point ∈ pointsOfCalls source ids context spanCount calls, point.entering →
      ∃ outer n, point.ids = source outer n ∧ spanCount ≤ n
  | [], _, hmem, _ => absurd hmem List.not_mem_nil
  | call :: rest, point, hmem, hentering => by
      have hlt := lt_spanCount_runWith source (some ids) context spanCount call
      simp only [pointsOfCalls] at hmem
      rcases List.mem_append.mp hmem with hcall | hmem
      · exact le_number_of_mem_points (some ids) context spanCount call point hcall hentering
      · split at hmem
        · exact absurd hmem List.not_mem_nil
        · rcases List.mem_cons.mp hmem with rfl | hrest
          · exact absurd hentering Bool.false_ne_true
          · obtain ⟨outer, n, hids, hn⟩ :=
              le_number_of_mem_pointsOfCalls ids _ _ rest point hrest hentering
            exact ⟨outer, n, hids, Nat.le_trans (Nat.le_of_lt hlt) hn⟩

end

theorem exists_latest_points (source : IdSource) (parent : Option Ids) (context : Context)
    (spanCount : Nat) (call : Call) :
    ∃ last outer n, latest (call.points source parent context spanCount) = some last ∧
      last.ids = source outer n ∧ spanCount ≤ n := by
  obtain ⟨last, hlast⟩ : ∃ last, latest (call.points source parent context spanCount) = some last := by
    cases call with
    | call => exact exists_latest_eq_some List.mem_cons_self rfl
  obtain ⟨hmem, hentering⟩ := mem_of_latest_eq_some hlast
  obtain ⟨outer, n, hids, hn⟩ :=
    le_number_of_mem_points parent context spanCount call last hmem hentering
  exact ⟨last, outer, n, hlast, hids, hn⟩

variable (hsource : source.Lawful)
include hsource

mutual

theorem tracks_points {parent : Option Ids} (hparent : parent.all Ids.isValid) (context : Context)
    (spanCount : Nat) : ∀ call : Call,
    Tracks source context (call.points source parent context spanCount)
  | .call _ _ _ inner _ _ => by
      have hids := hsource.isValid hparent spanCount
      have henter := leads_of_entering hids context
      have hbegin := (tracks_nil source context).concat
        ⟨henter, fun hover => absurd hover Bool.noConfusion⟩
      rw [Call.points, ← List.singleton_append]
      exact hbegin.append henter
        (tracks_pointsOfCalls hids rfl _ (Nat.lt_succ_self spanCount) inner)

theorem tracks_pointsOfCalls {ids : Ids} (hids : ids.isValid) {parent : Option Ids} {number : Nat}
    (hnumber : ids = source parent number) (context : Context) {spanCount : Nat}
    (hlt : number < spanCount) :
    ∀ calls : List Call, Tracks source context (pointsOfCalls source ids context spanCount calls)
  | [] => tracks_nil source context
  | call :: rest => by
      have hcall := tracks_points (Option.all_some.trans hids) context spanCount call
      have hfirst := leads_runWith hsource (Option.all_some.trans hids) context spanCount call
      have hgrows := lt_spanCount_runWith source (some ids) context spanCount call
      rw [hsource.trace_eq hids] at hfirst
      simp only [pointsOfCalls]
      split
      · rw [List.append_nil]
        exact hcall
      · -- Where the call is over, the span entered last is one of the call's, and those are newer.
        obtain ⟨last, outer, n, hlast, hlastIds, hn⟩ :=
          exists_latest_points source (some ids) context spanCount call
        rw [List.append_cons]
        refine (hcall.concat ⟨hfirst.resume ids, fun _ => ?_⟩).append (hfirst.resume ids) ?_
        · exact ⟨last, parent, outer, number, n, hlast, hnumber, hlastIds, Nat.lt_of_lt_of_le hlt hn⟩
        · exact tracks_pointsOfCalls hids hnumber _ (Nat.lt_trans hlt hgrows) rest

end

theorem tracks_pointsOfRoots (context : Context) (spanCount : Nat) (calls : List Call) :
    Tracks source context (pointsOfRoots source context spanCount calls) := by
  induction calls generalizing context spanCount with
  | nil => exact tracks_nil source context
  | cons call rest ih =>
      have hcall := tracks_points hsource Option.all_none context spanCount call
      have hfirst := leads_runWith hsource Option.all_none context spanCount call
      exact hcall.append hfirst (ih _ _)

end

/-! ### Moments -/

section

variable {source : IdSource}

theorem context_runCallsWith {ids : Ids} {context : Context} {spanCount : Nat} {calls : List Call}
    (hended : (runCallsWith source (some ids) context spanCount calls).failure = none) :
    (runCallsWith source (some ids) context spanCount calls).context = context ∨
      ∃ point ∈ pointsOfCalls source ids context spanCount calls,
        point.context = (runCallsWith source (some ids) context spanCount calls).context := by
  induction calls generalizing context spanCount with
  | nil => exact .inl rfl
  | cons call rest ih =>
      simp only [runCallsWith, pointsOfCalls] at hended ⊢
      split at hended
      · next hends => simp [hended] at hends
      · next hgoes =>
          rw [if_neg hgoes, if_neg hgoes]
          rcases ih hended with hsame | ⟨point, hmem, hcontext⟩
          · exact .inr ⟨_, List.mem_append_right _ List.mem_cons_self, hsame.symm⟩
          · exact .inr ⟨point, List.mem_append_right _ (List.mem_cons_of_mem _ hmem), hcontext⟩

mutual

theorem exists_point_of_mem_moments (parent : Option Ids) (context : Context) (spanCount : Nat) :
    ∀ call : Call, ∀ m ∈ (call.runWith source parent context spanCount).moments,
      ∃ point ∈ call.points source parent context spanCount, point.context = m.2
  | .call name _ _ inner _ _, m, hm => by
      simp only [Call.runWith] at hm
      rw [Call.points]
      rcases List.mem_append.mp hm with hm | hleft
      · rcases List.mem_cons.mp hm with rfl | hinner
        · exact ⟨_, List.mem_cons_self, rfl⟩
        · obtain ⟨point, hmem, hcontext⟩ :=
            exists_point_of_mem_momentsOfCalls _ _ (spanCount + 1) inner m hinner
          exact ⟨point, List.mem_cons_of_mem _ hmem, hcontext⟩
      · split at hleft
        · exact absurd hleft List.not_mem_nil
        · next hended =>
            obtain rfl := List.mem_singleton.mp hleft
            rcases context_runCallsWith (Option.not_isSome_iff_eq_none.mp hended) with
              hsame | ⟨point, hmem, hcontext⟩
            · exact ⟨_, List.mem_cons_self, hsame.symm⟩
            · exact ⟨point, List.mem_cons_of_mem _ hmem, hcontext⟩

theorem exists_point_of_mem_momentsOfCalls (ids : Ids) (context : Context) (spanCount : Nat) :
    ∀ calls : List Call, ∀ m ∈ (runCallsWith source (some ids) context spanCount calls).moments,
      ∃ point ∈ pointsOfCalls source ids context spanCount calls, point.context = m.2
  | [], _, hm => absurd hm List.not_mem_nil
  | call :: rest, m, hm => by
      have hcall := exists_point_of_mem_moments (some ids) context spanCount call m
      simp only [runCallsWith, pointsOfCalls] at hm ⊢
      split at hm
      · next hends =>
          rw [if_pos hends, List.append_nil]
          exact hcall hm
      · next hgoes =>
          rw [if_neg hgoes]
          rw [Run.moments_andThen, Run.moments_settled, List.append_assoc] at hm
          rcases List.mem_append.mp hm with hm | hm
          · obtain ⟨point, hmem, hcontext⟩ := hcall hm
            exact ⟨point, List.mem_append_left _ hmem, hcontext⟩
          rcases List.mem_append.mp hm with hcaught | hm
          · obtain ⟨failure, -, rfl⟩ := Option.map_eq_some_iff.mp (Option.mem_toList.mp hcaught)
            exact ⟨_, List.mem_append_right _ List.mem_cons_self, rfl⟩
          · obtain ⟨point, hmem, hcontext⟩ := exists_point_of_mem_momentsOfCalls ids _ _ rest m hm
            exact ⟨point, List.mem_append_right _ (List.mem_cons_of_mem _ hmem), hcontext⟩

end

/-- The context is looked at at no other points than those. -/
theorem exists_point_of_mem_momentsOfRoots {context : Context} {spanCount : Nat} {calls : List Call}
    {m : Moment × Context} (hm : m ∈ (runRootsWith source context spanCount calls).2.moments) :
    ∃ point ∈ pointsOfRoots source context spanCount calls, point.context = m.2 := by
  induction calls generalizing context spanCount with
  | nil => exact absurd hm List.not_mem_nil
  | cons call rest ih =>
      rcases List.mem_append.mp hm with hcall | hrest
      · obtain ⟨point, hmem, hcontext⟩ := exists_point_of_mem_moments none context spanCount call m hcall
        exact ⟨point, List.mem_append_left _ hmem, hcontext⟩
      · obtain ⟨point, hmem, hcontext⟩ := ih hrest
        exact ⟨point, List.mem_append_right _ hmem, hcontext⟩

end

/-! ### The whole forest -/

/-- At every point of every forest of calls the context names the trace of the span around the body and
has its other fields from the start; its span is the one entered last, which is the span around the body
just where that body begins. At every moment of the run the context is that of one of the points. -/
theorem names_latest_of_pointsOfRoots_eq {source : IdSource} (hsource : source.Lawful)
    (context : Context) (spanCount : Nat) (calls : List Call) :
    (∀ before point after,
      pointsOfRoots source context spanCount calls = before ++ point :: after →
        point.context.lookup traceKey = some (.str point.ids.trace) ∧
          others point.context = others context ∧
          (∃ last, latest (before ++ [point]) = some last ∧
            point.context.lookup spanKey = some (.str last.ids.span)) ∧
          (point.Correlated context ↔ point.entering)) ∧
      ∀ m ∈ (runRootsWith source context spanCount calls).2.moments,
        ∃ point ∈ pointsOfRoots source context spanCount calls, point.context = m.2 := by
  refine ⟨fun before point after hpoints => ?_, fun m hm => exists_point_of_mem_momentsOfRoots hm⟩
  have hfollows := tracks_pointsOfRoots hsource context spanCount calls before point after hpoints
  obtain ⟨htrace, hspan, hothers⟩ := hfollows.leads
  cases hentering : point.entering with
  | true =>
      have hown := latest_concat_of_entering hentering before
      rw [hown] at hspan
      exact ⟨htrace, hothers, ⟨point, hown, hspan⟩, fun _ => rfl, fun _ => ⟨htrace, hspan, hothers⟩⟩
  | false =>
      obtain ⟨last, parent, parent', m, n, hlast, hids, hlastIds, hlt⟩ := hfollows.inner hentering
      have hinner := (latest_concat_of_not_entering hentering before).trans hlast
      rw [hinner] at hspan
      refine ⟨htrace, hothers, ⟨last, hinner, hspan⟩, fun hcorrelated => ?_, fun h => absurd h (by simp)⟩
      -- The span entered last got a later number than the one around the body.
      have hsame := Json.str.inj (Option.some.inj (hspan.symm.trans hcorrelated.span))
      rw [hlastIds, hids] at hsame
      exact absurd (hsource.eq_of_span_eq hsame) (Nat.ne_of_gt hlt)

/-- A call that makes one call. -/
def nestedCall : Call :=
  .call "a".toList .internal [] [.call "b".toList .internal [] [] none false] none false

theorem names_latest_of_pointsOfRoots_eq_nested :
    let outer := Ids.fresh none 0
    let inner := Ids.fresh (some outer) 1
    let resumed : Point := ⟨outer, false, ofIds inner⟩
    Ids.fresh.Lawful ∧
      pointsOfRoots Ids.fresh [] 0 [nestedCall]
        = [⟨outer, true, ofIds outer⟩, ⟨inner, true, ofIds inner⟩] ++ resumed :: [] ∧
      resumed.context.lookup traceKey = some (.str outer.trace) ∧
      resumed.context.lookup spanKey = some (.str inner.span) ∧
      (resumed.Correlated [] ↔ resumed.entering) ∧
      ∀ m ∈ (runRootsWith Ids.fresh [] 0 [nestedCall]).2.moments,
        ∃ point ∈ pointsOfRoots Ids.fresh [] 0 [nestedCall], point.context = m.2 := by
  intro outer inner resumed
  obtain ⟨hpoints, hmoments⟩ := names_latest_of_pointsOfRoots_eq Ids.lawful_fresh [] 0 [nestedCall]
  have hall : pointsOfRoots Ids.fresh [] 0 [nestedCall]
      = [⟨outer, true, ofIds outer⟩, ⟨inner, true, ofIds inner⟩] ++ resumed :: [] := rfl
  obtain ⟨htrace, -, -, hcorrelated⟩ := hpoints _ resumed [] hall
  exact ⟨Ids.lawful_fresh, hall, htrace, rfl, hcorrelated, hmoments⟩

theorem not_forall_correlated_nested :
    ¬ ∀ point ∈ pointsOfRoots Ids.fresh [] 0 [nestedCall], point.Correlated [] := by
  intro hall
  have hlast := (hall _ (List.getLast_mem (List.cons_ne_nil _ _))).span
  have hsame : Text.hex 16 2 = Text.hex 16 1 := Json.str.inj (Option.some.inj hlast)
  exact absurd hsame (by decide)

end NoteSearch.Trace
