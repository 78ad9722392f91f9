import Nightjar.Correlator.FlowDrops

namespace Nightjar.Correlator

open Lib Lib.Strings

inductive SendOutcome where
  | sent
  | full
  | done
deriving DecidableEq, Repr

structure FlowVisit where
  constraint : Constraint
  now : Int
  outcome : SendOutcome

structure FlowState where
  seenPairs : Dedupe.Cache DedupeKey
  emitted : List FlowDropNotification := []

/-- The arguments and the surroundings of a call of `handleFlowDrop`. The index hands out the
constraints of a namespace in some order. -/
structure FlowCall where
  index : Indexer
  drop : FlowDrop
  allowed : Bool
  visits : String → List FlowVisit
  perm : ∀ ns, ((visits ns).map FlowVisit.constraint).Perm (index.byNamespace ns)

namespace FlowCall

/-- The visits of the call with the namespaces they belong to, in their order. -/
def places (call : FlowCall) : List (String × FlowVisit) :=
  (flowNamespaces call.drop call.allowed).flatMap (fun ns => (call.visits ns).map (Prod.mk ns))

/-- The drop is one of a policy, the limiter admits it, and both of its ends are in a namespace. -/
structure Admitted (call : FlowCall) : Prop where
  policy : call.drop.dropReason.isPolicyDrop = true
  allowed : call.allowed = true
  source : call.drop.source.ns ≠ ""
  destination : call.drop.destination.ns ≠ ""

theorem flowNamespaces_of_admitted {call : FlowCall} (h : call.Admitted) :
    flowNamespaces call.drop call.allowed = call.drop.source.ns ::
      if call.drop.destination.ns ≠ call.drop.source.ns then [call.drop.destination.ns] else [] := by
  simp [flowNamespaces, h.policy, h.allowed, h.source, h.destination]

theorem mem_places_iff {call : FlowCall} {p : String × FlowVisit} :
    p ∈ call.places ↔ p.1 ∈ flowNamespaces call.drop call.allowed ∧ p.2 ∈ call.visits p.1 := by
  obtain ⟨ns, v⟩ := p
  simp [FlowCall.places]

theorem mem_all_of_mem_places {call : FlowCall} {p : String × FlowVisit} (h : p ∈ call.places) :
    p.2.constraint ∈ call.index.all := by
  have hmem := (call.perm p.1).mem_iff.mp (List.mem_map_of_mem (mem_places_iff.mp h).2)
  exact (Indexer.mem_byNamespace.mp hmem).1

theorem constraint_eq_of_flowKey_eq {call : FlowCall} {p q : String × FlowVisit} (hp : p ∈ call.places)
    (hq : q ∈ call.places) (h : flowKey call.drop q.2.constraint = flowKey call.drop p.2.constraint) :
    q.2.constraint = p.2.constraint := by
  have huid : q.2.constraint.uid = p.2.constraint.uid := congrArg DedupeKey.constraintUID h
  have hlq := Indexer.mem_all.mp (mem_all_of_mem_places hq)
  have hlp := Indexer.mem_all.mp (mem_all_of_mem_places hp)
  rw [huid, hlp] at hlq
  exact (Option.some.inj hlq).symm

end FlowCall

def offered (drop : FlowDrop) (v : FlowVisit) : List FlowDropNotification :=
  if v.outcome = .sent then [flowDropNotification drop v.constraint] else []

theorem eq_of_mem_offered {drop : FlowDrop} {v : FlowVisit} {n : FlowDropNotification} (h : n ∈ offered drop v) :
    n = flowDropNotification drop v.constraint := by
  unfold offered at h
  split at h
  · exact List.mem_singleton.mp h
  · cases h

section Handler
variable [LabelSelectors]

def correlateFlowDropInNamespace (drop : FlowDrop) (ns : String) : List FlowVisit → FlowState → FlowState
  | [], s => s
  | v :: vs, s =>
      if !correlates drop ns v.constraint then correlateFlowDropInNamespace drop ns vs s
      else
        match tryMarkSeen s.seenPairs (flowKey drop v.constraint) v.now with
        | (false, _) => correlateFlowDropInNamespace drop ns vs s
        | (true, seenPairs) =>
            match v.outcome with
            | .sent => correlateFlowDropInNamespace drop ns vs
                ⟨seenPairs, s.emitted ++ [flowDropNotification drop v.constraint]⟩
            | .full => correlateFlowDropInNamespace drop ns vs { s with seenPairs := seenPairs }
            | .done => { s with seenPairs := seenPairs }

namespace FlowCall

def handleFlowDrop (call : FlowCall) (seenPairs : Dedupe.Cache DedupeKey) : FlowState :=
  (flowNamespaces call.drop call.allowed).foldl
    (fun s ns => correlateFlowDropInNamespace call.drop ns (call.visits ns) s) ⟨seenPairs, []⟩

def Sends (call : FlowCall) : Prop :=
  ∀ p ∈ call.places, correlates call.drop p.1 p.2.constraint = true → p.2.outcome = .sent

def Completes (call : FlowCall) : Prop :=
  ∀ p ∈ call.places, correlates call.drop p.1 p.2.constraint = true → p.2.outcome ≠ .done

theorem Sends.completes {call : FlowCall} (h : call.Sends) : call.Completes := by
  intro p hp hc
  rw [h p hp hc]
  decide

/-- None of the matching constraints was notified for the flow less than a window ago. -/
def FreshIn (call : FlowCall) (seenPairs : Dedupe.Cache DedupeKey) : Prop :=
  ∀ p ∈ call.places, correlates call.drop p.1 p.2.constraint = true →
    (tryMarkSeen seenPairs (flowKey call.drop p.2.constraint) p.2.now).1 = true

/-- The constraint comes up in the call and passes the tests there. -/
def Matches (call : FlowCall) (c : Constraint) : Prop :=
  ∃ p ∈ call.places, p.2.constraint = c ∧ correlates call.drop p.1 c = true

end FlowCall

def visit (drop : FlowDrop) (s : FlowState) (p : String × FlowVisit) : FlowState :=
  if correlates drop p.1 p.2.constraint && (tryMarkSeen s.seenPairs (flowKey drop p.2.constraint) p.2.now).1 then
    ⟨(tryMarkSeen s.seenPairs (flowKey drop p.2.constraint) p.2.now).2, s.emitted ++ offered drop p.2⟩
  else s

theorem correlateFlowDropInNamespace_eq {drop : FlowDrop} {ns : String} {vs : List FlowVisit}
    (hdone : ∀ v ∈ vs, correlates drop ns v.constraint = true → v.outcome ≠ .done) (s : FlowState) :
    correlateFlowDropInNamespace drop ns vs s = (vs.map (Prod.mk ns)).foldl (visit drop) s := by
  induction vs generalizing s with
  | nil => rfl
  | cons v vs ih =>
      obtain ⟨hhead, htail⟩ := List.forall_mem_cons.mp hdone
      rw [List.map_cons, List.foldl_cons, ← ih htail, correlateFlowDropInNamespace, visit]
      cases hc : correlates drop ns v.constraint with
      | false => simp
      | true =>
          cases hm : tryMarkSeen s.seenPairs (flowKey drop v.constraint) v.now with
          | mk ok seenPairs =>
              cases ok with
              | false => simp
              | true =>
                  cases ho : v.outcome with
                  | sent => simp [offered, ho]
                  | full => simp [offered, ho]
                  | done => exact absurd ho (hhead hc)

theorem handleFlowDrop_eq {call : FlowCall} (hdone : call.Completes) (seenPairs : Dedupe.Cache DedupeKey) :
    call.handleFlowDrop seenPairs = call.places.foldl (visit call.drop) ⟨seenPairs, []⟩ := by
  rw [FlowCall.handleFlowDrop, FlowCall.places, List.foldl_flatMap]
  apply List.foldl_ext
  intro s ns hns
  apply correlateFlowDropInNamespace_eq
  intro v hv
  exact hdone (ns, v) (FlowCall.mem_places_iff.mpr ⟨hns, hv⟩)

section Places
variable {drop : FlowDrop} {ps : List (String × FlowVisit)} {s : FlowState}

theorem visit_cases (drop : FlowDrop) (s : FlowState) (p : String × FlowVisit) :
    ((correlates drop p.1 p.2.constraint = true →
        (tryMarkSeen s.seenPairs (flowKey drop p.2.constraint) p.2.now).1 = false) ∧ visit drop s p = s) ∨
      correlates drop p.1 p.2.constraint = true ∧
      (tryMarkSeen s.seenPairs (flowKey drop p.2.constraint) p.2.now).1 = true ∧
      (visit drop s p).emitted = s.emitted ++ offered drop p.2 ∧
      ∀ k, (visit drop s p).seenPairs.lookup k =
        if k = flowKey drop p.2.constraint then some p.2.now else s.seenPairs.lookup k := by
  by_cases h : correlates drop p.1 p.2.constraint = true ∧
      (tryMarkSeen s.seenPairs (flowKey drop p.2.constraint) p.2.now).1 = true
  · right
    have hvisit : visit drop s p =
        ⟨(tryMarkSeen s.seenPairs (flowKey drop p.2.constraint) p.2.now).2, s.emitted ++ offered drop p.2⟩ := by
      rw [visit, h.1, h.2]
      rfl
    refine ⟨h.1, h.2, ?_, fun k => ?_⟩
    · rw [hvisit]
    · rw [hvisit, tryMarkSeen, Dedupe.lookup_tryMark]
      rw [tryMarkSeen] at h
      simp [h.2]
  · left
    refine ⟨fun hc => Bool.eq_false_iff.mpr (fun hok => h ⟨hc, hok⟩), ?_⟩
    rw [visit, if_neg]
    simpa using h

theorem emitted_subset_visit (drop : FlowDrop) (s : FlowState) (p : String × FlowVisit) :
    s.emitted ⊆ (visit drop s p).emitted := by
  rcases visit_cases drop s p with ⟨-, h⟩ | ⟨-, -, h, -⟩
  · rw [h]
    exact List.Subset.refl _
  · rw [h]
    exact List.subset_append_left _ _

theorem emitted_subset (drop : FlowDrop) (s : FlowState) (ps : List (String × FlowVisit)) :
    s.emitted ⊆ (ps.foldl (visit drop) s).emitted := by
  induction ps generalizing s with
  | nil => exact List.Subset.refl _
  | cons p ps ih => exact List.Subset.trans (emitted_subset_visit drop s p) (ih (visit drop s p))

theorem exists_of_mem_emitted {n : FlowDropNotification} (h : n ∈ (ps.foldl (visit drop) s).emitted) :
    n ∈ s.emitted ∨ ∃ p ∈ ps, correlates drop p.1 p.2.constraint = true ∧
      n = flowDropNotification drop p.2.constraint := by
  induction ps generalizing s with
  | nil => exact .inl h
  | cons p ps ih =>
      rcases ih h with h | ⟨q, hq, hn⟩
      · rcases visit_cases drop s p with ⟨-, hv⟩ | ⟨hc, -, hv, -⟩
        · rw [hv] at h
          exact .inl h
        · rw [hv, List.mem_append] at h
          exact h.imp_right fun hn => ⟨p, List.mem_cons_self, hc, eq_of_mem_offered hn⟩
      · exact .inr ⟨q, List.mem_cons_of_mem _ hq, hn⟩

structure Marks (drop : FlowDrop) (p : String × FlowVisit) (k : DedupeKey) (s : FlowState) : Prop where
  matched : correlates drop p.1 p.2.constraint = true
  key : flowKey drop p.2.constraint = k
  emitted : p.2.outcome = .sent → flowDropNotification drop p.2.constraint ∈ s.emitted
  lookup : s.seenPairs.lookup k = some p.2.now

theorem marks_visit {p : String × FlowVisit} (hc : correlates drop p.1 p.2.constraint = true)
    (hok : (tryMarkSeen s.seenPairs (flowKey drop p.2.constraint) p.2.now).1 = true) :
    Marks drop p (flowKey drop p.2.constraint) (visit drop s p) := by
  rcases visit_cases drop s p with ⟨hfalse, -⟩ | ⟨-, -, hemitted, hlookup⟩
  · rw [hfalse hc] at hok
    cases hok
  · refine ⟨hc, rfl, fun ho => ?_, by rw [hlookup, if_pos rfl]⟩
    rw [hemitted, offered, if_pos ho]
    exact List.mem_append_right _ (List.mem_singleton_self _)

theorem Marks.of_lookup {p : String × FlowVisit} {k : DedupeKey} (h : Marks drop p k s)
    (hl : (ps.foldl (visit drop) s).seenPairs.lookup k = s.seenPairs.lookup k) :
    Marks drop p k (ps.foldl (visit drop) s) where
  matched := h.matched
  key := h.key
  emitted ho := emitted_subset drop s ps (h.emitted ho)
  lookup := hl.trans h.lookup

theorem lookup_or_marked (drop : FlowDrop) (s : FlowState) (ps : List (String × FlowVisit)) (k : DedupeKey) :
    (ps.foldl (visit drop) s).seenPairs.lookup k = s.seenPairs.lookup k ∨
      (∃ p ∈ ps, correlates drop p.1 p.2.constraint = true ∧ flowKey drop p.2.constraint = k ∧
        (tryMarkSeen s.seenPairs k p.2.now).1 = true) ∧
      ∃ p ∈ ps, Marks drop p k (ps.foldl (visit drop) s) := by
  induction ps generalizing s with
  | nil => exact .inl rfl
  | cons p ps ih =>
      rw [List.foldl_cons]
      by_cases hp : correlates drop p.1 p.2.constraint = true ∧ flowKey drop p.2.constraint = k ∧
          (tryMarkSeen s.seenPairs k p.2.now).1 = true
      · obtain ⟨hc, rfl, hok⟩ := hp
        refine .inr ⟨⟨p, List.mem_cons_self, hc, rfl, hok⟩, ?_⟩
        rcases ih (visit drop s p) with hsame | ⟨-, q, hq, hmarks⟩
        · exact ⟨p, List.mem_cons_self, (marks_visit hc hok).of_lookup hsame⟩
        · exact ⟨q, List.mem_cons_of_mem _ hq, hmarks⟩
      · have hkeep : (visit drop s p).seenPairs.lookup k = s.seenPairs.lookup k := by
          rcases visit_cases drop s p with ⟨-, hv⟩ | ⟨hc, hok, -, hlookup⟩
          · rw [hv]
          · rw [hlookup, if_neg]
            rintro rfl
            exact hp ⟨hc, rfl, hok⟩
        rcases ih (visit drop s p) with hsame | ⟨⟨q, hq, hc, hk, hok⟩, r, hr, hmarks⟩
        · exact .inl (hsame.trans hkeep)
        · have hok' := (Dedupe.tryMark_fst_congr dedupe (visit drop s p).seenPairs _ q.2.now hkeep).symm.trans hok
          exact .inr ⟨⟨q, List.mem_cons_of_mem _ hq, hc, hk, hok'⟩, r, List.mem_cons_of_mem _ hr, hmarks⟩

theorem marked_of_fresh {p : String × FlowVisit} (hp : p ∈ ps) (hc : correlates drop p.1 p.2.constraint = true)
    (hfresh : (tryMarkSeen s.seenPairs (flowKey drop p.2.constraint) p.2.now).1 = true) :
    ∃ q ∈ ps, Marks drop q (flowKey drop p.2.constraint) (ps.foldl (visit drop) s) := by
  obtain ⟨pre, post, rfl⟩ := List.append_of_mem hp
  rw [List.foldl_append, List.foldl_cons]
  have hvisited : ∃ q ∈ pre ++ p :: post,
      Marks drop q (flowKey drop p.2.constraint) (visit drop (pre.foldl (visit drop) s) p) := by
    rcases visit_cases drop (pre.foldl (visit drop) s) p with ⟨hfalse, hv⟩ | ⟨-, hok, -⟩
    · rw [hv]
      rcases lookup_or_marked drop s pre (flowKey drop p.2.constraint) with hsame | ⟨-, q, hq, hmarks⟩
      · have hok := (Dedupe.tryMark_fst_congr dedupe (pre.foldl (visit drop) s).seenPairs _ p.2.now hsame).trans hfresh
        exact absurd hok (Bool.eq_false_iff.mp (hfalse hc))
      · exact ⟨q, List.mem_append_left _ hq, hmarks⟩
    · exact ⟨p, hp, marks_visit hc hok⟩
  obtain ⟨q, hq, hmarks⟩ := hvisited
  rcases lookup_or_marked drop (visit drop (pre.foldl (visit drop) s) p) post (flowKey drop p.2.constraint) with
    hsame | ⟨-, r, hr, hmarks'⟩
  · exact ⟨q, hq, hmarks.of_lookup hsame⟩
  · exact ⟨r, List.mem_append_right _ (List.mem_cons_of_mem _ hr), hmarks'⟩

end Places

section Calls
variable {call : FlowCall} {seenPairs : Dedupe.Cache DedupeKey}

theorem notified_of_fresh (hsent : call.Sends) {p : String × FlowVisit} (hp : p ∈ call.places)
    (hc : correlates call.drop p.1 p.2.constraint = true)
    (hfresh : (tryMarkSeen seenPairs (flowKey call.drop p.2.constraint) p.2.now).1 = true) :
    flowDropNotification call.drop p.2.constraint ∈ (call.handleFlowDrop seenPairs).emitted := by
  rw [handleFlowDrop_eq hsent.completes]
  obtain ⟨q, hq, hmarks⟩ := marked_of_fresh (s := ⟨seenPairs, []⟩) hp hc hfresh
  rw [← FlowCall.constraint_eq_of_flowKey_eq hp hq hmarks.key]
  exact hmarks.emitted (hsent q hq hmarks.matched)

end Calls

/-- Every egress constraint of the source namespace that selects the source pod and every
ingress constraint of the destination namespace that selects the destination pod is notified. -/
structure Complete (call : FlowCall) (emitted : List FlowDropNotification) : Prop where
  egress : ∀ c ∈ call.index.byNamespace call.drop.source.ns, c.constraintType = .networkEgress →
    Util.matchesLabelSelector c.workloadSelector call.drop.source.labels = true →
    flowDropNotification call.drop c ∈ emitted
  ingress : ∀ c ∈ call.index.byNamespace call.drop.destination.ns, c.constraintType = .networkIngress →
    Util.matchesLabelSelector c.workloadSelector call.drop.destination.labels = true →
    flowDropNotification call.drop c ∈ emitted

theorem notified_in_namespace {call : FlowCall} {seenPairs : Dedupe.Cache DedupeKey} (hsent : call.Sends)
    (hfresh : call.FreshIn seenPairs) {ns : String} (hns : ns ∈ flowNamespaces call.drop call.allowed)
    {c : Constraint} (hmem : c ∈ call.index.byNamespace ns) (hc : correlates call.drop ns c = true) :
    flowDropNotification call.drop c ∈ (call.handleFlowDrop seenPairs).emitted := by
  obtain ⟨v, hv, rfl⟩ := List.mem_map.mp ((call.perm ns).mem_iff.mpr hmem)
  have hplace : (ns, v) ∈ call.places := FlowCall.mem_places_iff.mpr ⟨hns, hv⟩
  exact notified_of_fresh hsent hplace hc (hfresh (ns, v) hplace hc)

/-- Within one namespace only the source's labels are looked at. -/
theorem flow_drops_complete_iff (call : FlowCall) (seenPairs : Dedupe.Cache DedupeKey) (hadmitted : call.Admitted)
    (hfresh : call.FreshIn seenPairs) (hsent : call.Sends) :
    Complete call (call.handleFlowDrop seenPairs).emitted ↔
      call.drop.source.ns ≠ call.drop.destination.ns ∨
      ∀ c ∈ call.index.byNamespace call.drop.destination.ns, c.constraintType = .networkIngress →
        Util.matchesLabelSelector c.workloadSelector call.drop.destination.labels = true →
        Util.matchesLabelSelector c.workloadSelector call.drop.source.labels = true := by
  have hnss := FlowCall.flowNamespaces_of_admitted hadmitted
  have hsource : matchLabels call.drop call.drop.source.ns = call.drop.source.labels := if_pos rfl
  have hsourceNs : call.drop.source.ns ∈ flowNamespaces call.drop call.allowed := by
    rw [hnss]
    exact List.mem_cons_self
  constructor
  · intro hcomplete
    by_cases hsame : call.drop.source.ns = call.drop.destination.ns
    · right
      intro c hmem htype hdest
      have hn := hcomplete.ingress c hmem htype hdest
      rw [handleFlowDrop_eq hsent.completes] at hn
      rcases exists_of_mem_emitted hn with hnil | ⟨p, hp, hc, heq⟩
      · cases hnil
      · have hconstraint : c = p.2.constraint := congrArg FlowDropNotification.constraint heq
        have hns : p.1 = call.drop.source.ns := by
          have hmemns := (FlowCall.mem_places_iff.mp hp).1
          rw [hnss] at hmemns
          simpa [hsame] using hmemns
        rw [hns, ← hconstraint, correlates, hsource] at hc
        simp only [Bool.and_eq_true] at hc
        exact hc.2
    · exact .inl hsame
  · intro hcond
    constructor
    · intro c hmem htype hlabels
      apply notified_in_namespace hsent hfresh hsourceNs hmem
      simp [correlates, htype, hsource, hlabels]
    · intro c hmem htype hlabels
      by_cases hsame : call.drop.destination.ns = call.drop.source.ns
      · have hboth := (hcond.resolve_left (fun h => h hsame.symm)) c hmem htype hlabels
        rw [hsame] at hmem
        apply notified_in_namespace hsent hfresh hsourceNs hmem
        simp [correlates, htype, hsource, hboth]
      · have hdestNs : call.drop.destination.ns ∈ flowNamespaces call.drop call.allowed := by
          rw [hnss]
          simp [hsame]
        apply notified_in_namespace hsent hfresh hdestNs hmem
        simp [correlates, htype, matchLabels, hsame, hlabels]

end Handler

def FlowCall.instant (index : Indexer) (drop : FlowDrop) (now : Int) : FlowCall where
  index := index
  drop := drop
  allowed := true
  visits ns := (index.byNamespace ns).map (fun c => ⟨c, now, .sent⟩)
  perm ns := by
    have h : ((index.byNamespace ns).map (fun c => FlowVisit.mk c now .sent)).map FlowVisit.constraint =
        index.byNamespace ns := by
      rw [List.map_map]
      exact List.map_id _
    rw [h]

theorem visit_of_mem_instant {index : Indexer} {drop : FlowDrop} {now : Int} {p : String × FlowVisit}
    (h : p ∈ (FlowCall.instant index drop now).places) : p.2.now = now ∧ p.2.outcome = .sent := by
  obtain ⟨c, -, hc⟩ := List.mem_map.mp (FlowCall.mem_places_iff.mp h).2
  rw [← hc]
  exact ⟨rfl, rfl⟩

section Sample
attribute [local instance] LabelSelectors.model

theorem sends_instant (index : Indexer) (drop : FlowDrop) (now : Int) : (FlowCall.instant index drop now).Sends :=
  fun _ hp _ => (visit_of_mem_instant hp).2

theorem freshIn_empty (call : FlowCall) : call.FreshIn ∅ :=
  fun _ _ _ => rfl

def webIngress : Constraint where
  uid := "c-web"
  source := ⟨"networking.k8s.io", "v1", "networkpolicies"⟩
  name := "web"
  ns := "shared"
  affectedNamespaces := ["shared"]
  workloadSelector := some ⟨[("app", "web")], []⟩
  constraintType := .networkIngress
  effect := "restrict"
  severity := .warning
  summary := "NetworkPolicy web restricts ingress to 1 rule(s)"

def webIndex : Indexer := Indexer.new.applyAll [.upsert webIngress]

def clientDrop (ns : String) : FlowDrop where
  source := { ns := ns, podName := "client-0", labels := [("app", "client")] }
  destination := { ns := "shared", podName := "web-0", labels := [("app", "web")] }
  protocol := "TCP"
  destinationPort := 80
  dropReason := .policy

theorem web_ingress_missed :
    (FlowCall.instant webIndex (clientDrop "shared") 0).Admitted ∧
      (webIndex.byNamespace "shared").map Constraint.uid = ["c-web"] ∧
      Util.matchesLabelSelector webIngress.workloadSelector (clientDrop "shared").destination.labels = true ∧
      ((FlowCall.instant webIndex (clientDrop "shared") 0).handleFlowDrop ∅).emitted.length = 0 := by
  refine ⟨⟨rfl, rfl, by decide, by decide⟩, ?_, ?_, ?_⟩ <;> decide +kernel

theorem web_ingress_found :
    (FlowCall.instant webIndex (clientDrop "clients") 0).Admitted ∧
      Complete (FlowCall.instant webIndex (clientDrop "clients") 0)
        ((FlowCall.instant webIndex (clientDrop "clients") 0).handleFlowDrop ∅).emitted := by
  have hadmitted : (FlowCall.instant webIndex (clientDrop "clients") 0).Admitted :=
    ⟨rfl, rfl, by decide, by decide⟩
  exact ⟨hadmitted, (flow_drops_complete_iff _ ∅ hadmitted (freshIn_empty _) (sends_instant _ _ _)).mpr
    (.inl (by decide))⟩

end Sample

end Nightjar.Correlator
