import Nightjar.Notifier.Remediation
import Nightjar.Indexer
import Nightjar.Lib.Noninterference

namespace Nightjar.Notifier

open Lib Lib.Strings

/-- The constraint lives in a namespace, and not in the viewer's. -/
def HiddenFrom (viewer : String) (c : Constraint) : Prop := c.ns ≠ "" ∧ c.ns ≠ viewer

instance (viewer : String) (c : Constraint) : Decidable (HiddenFrom viewer c) := inferInstanceAs (Decidable (_ ∧ _))

/-- Two constraints hidden from the viewer that differ in name and namespace only. -/
inductive Variant (viewer : String) (c : Constraint) : Constraint → Prop
  | mk (name ns : String) (hidden : HiddenFrom viewer c) (hidden' : ns ≠ "" ∧ ns ≠ viewer) :
      Variant viewer c { c with name := name, ns := ns }

def relabel (viewer : String) (c : Constraint) : Constraint :=
  { c with name := c.name ++ "x-y", ns := c.ns ++ viewer ++ "x" }

/-- Two lists that agree position by position, up to variants. -/
def Varied (viewer : String) : List Constraint → List Constraint → Prop :=
  List.Forall₂ (fun c c' => c' = c ∨ Variant viewer c c')

/-- The constraint with its name and namespace replaced if it is hidden. -/
def veil (viewer : String) (c : Constraint) : Constraint := if HiddenFrom viewer c then relabel viewer c else c

/-- No remediation step of the constraint is made from its name or namespace. -/
def Silent (c : Constraint) : Prop :=
  branch c = .own ∨ branch c = .missingResource ∧ detailString c "expectedKind" = ""

instance (c : Constraint) : Decidable (Silent c) := inferInstanceAs (Decidable (_ ∨ _))

variable {viewer : String} {c c' : Constraint}

theorem Variant.hidden (h : Variant viewer c c') : HiddenFrom viewer c := by
  cases h
  assumption

theorem Variant.hidden' (h : Variant viewer c c') : HiddenFrom viewer c' := by
  cases h
  assumption

theorem Variant.branch_eq (h : Variant viewer c c') : branch c' = branch c := by
  cases h
  rfl

theorem Variant.affectedNamespaces_eq (h : Variant viewer c c') : c'.affectedNamespaces = c.affectedNamespaces := by
  cases h
  rfl

theorem Variant.uid_eq (h : Variant viewer c c') : c'.uid = c.uid := by
  cases h
  rfl

theorem Variant.silent_iff (h : Variant viewer c c') : Silent c' ↔ Silent c := by
  cases h
  rfl

theorem variant_relabel (h : HiddenFrom viewer c) : Variant viewer c (relabel viewer c) := by
  refine .mk _ _ h ⟨?_, ?_⟩
  · intro hns
    simpa using congrArg String.length hns
  · intro hns
    have hlength := congrArg String.length hns
    simp only [String.length_append] at hlength
    have hone : "x".length = 1 := rfl
    omega

theorem veil_variant (viewer : String) (c : Constraint) : veil viewer c = c ∨ Variant viewer c (veil viewer c) := by
  rw [veil]
  split
  · rename_i hc
    exact .inr (variant_relabel hc)
  · exact .inl rfl

theorem varied_map_veil (viewer : String) (cs : List Constraint) : Varied viewer cs (cs.map (veil viewer)) :=
  List.forall₂_map_right_iff.mpr (List.forall₂_same.mpr fun c _ => veil_variant viewer c)

theorem eq_of_varied {cs cs' : List Constraint} (h : Varied viewer cs cs') (hcs : ∀ c ∈ cs, ¬ HiddenFrom viewer c) :
    cs' = cs := by
  induction h with
  | nil => rfl
  | cons hc _ ih =>
      rw [List.forall_mem_cons] at hcs
      rw [ih hcs.2, hc.resolve_right fun hv => hcs.1 hv.hidden]

theorem length_name_relabel : c.name.length < (relabel viewer c).name.length := by
  rw [relabel, String.length_append]
  exact Nat.lt_add_of_pos_right (by decide)

theorem sum_length_name_veil {cs : List Constraint} (hc : c ∈ cs) (hhidden : HiddenFrom viewer c) :
    (cs.map (fun c => c.name.length)).sum < ((cs.map (veil viewer)).map (fun c => c.name.length)).sum := by
  refine sum_lt_sum_map hc ?_ fun d _ => ?_
  · rw [veil, if_pos hhidden]
    exact length_name_relabel
  · rw [veil]
    split
    · exact Nat.le_of_lt length_name_relabel
    · exact Nat.le_refl _

theorem relabel_name_ne : (relabel viewer c).name ≠ c.name :=
  fun h => Nat.ne_of_gt length_name_relabel (congrArg String.length h)

theorem length_configName_le (name : String) : (configName name).length ≤ name.length := by
  rw [configName]
  split
  · exact Nat.le_refl _
  · rw [String.length_ofList, List.length_reverse, List.length_drop, ← String.length_toList]
    calc _ ≤ _ := Nat.sub_le _ _
      _ ≤ name.toList.reverse.length := (List.dropWhile_sublist _).length_le
      _ = name.toList.length := List.length_reverse

theorem configName_append (name : String) : configName (name ++ "x-y") = name ++ "x" := by
  have hrev : (name ++ "x-y").toList.reverse = 'y' :: '-' :: 'x' :: name.toList.reverse := by
    simp
  rw [configName, hrev]
  simp [String.ofList_append]

section Build
variable [Unicode] (rb : RemediationBuilder)

theorem build_variant (h : Variant viewer c c') (hs : Silent c) : rb.build c' = rb.build c := by
  rw [RemediationBuilder.build, RemediationBuilder.build, h.branch_eq]
  rcases hs with hown | ⟨hmissing, hkind⟩
  · cases h
    rw [hown]
    rfl
  · cases h with
    | mk name ns =>
        have hkind' : detailString { c with name := name, ns := ns } "expectedKind" = "" := hkind
        simp only [hmissing, RemediationBuilder.buildMissingResourceRemediation, hkind, hkind']
        rfl

/-- The first command of a namespaced constraint whose remediation is not silent. -/
def inspectCommand (c : Constraint) : String :=
  match branch c with
  | .own => ""
  | .networkPolicy => "kubectl get networkpolicy " ++ c.name ++ " -n " ++ c.ns ++ " -o yaml"
  | .resourceQuota => "kubectl describe resourcequota " ++ c.name ++ " -n " ++ c.ns
  | .webhook =>
      "kubectl get " ++ (if c.source.resource = "mutatingwebhookconfigurations" then "mutatingwebhookconfigurations"
        else "validatingwebhookconfigurations") ++ " " ++ configName c.name ++ " -o yaml"
  | .missingResource => "kubectl get " ++ toLower (detailString c "expectedKind") ++ " -n " ++ c.ns
  | .generic => "kubectl get " ++ c.source.resource ++ " " ++ c.name ++ " -n " ++ c.ns ++ " -o yaml"

theorem head_build (hns : c.ns ≠ "") (hs : ¬ Silent c) : ∃ description, (rb.build c).steps.head? = some
    { type := "kubectl", description := description, command := inspectCommand c
      requiresPrivilege := if branch c = .webhook then "cluster-admin" else "developer" } := by
  rw [Silent] at hs
  rw [RemediationBuilder.build, inspectCommand]
  cases hb : branch c with
  | own => exact absurd (.inl hb) hs
  | networkPolicy =>
      simp only [RemediationBuilder.buildNetworkPolicyRemediation, if_pos hns]
      exact ⟨_, rfl⟩
  | resourceQuota =>
      simp only [RemediationBuilder.buildResourceQuotaRemediation, if_pos hns]
      exact ⟨_, rfl⟩
  | webhook => exact ⟨_, rfl⟩
  | missingResource =>
      have hkind : detailString c "expectedKind" ≠ "" ∧ c.ns ≠ "" := ⟨fun hk => hs (.inr ⟨hb, hk⟩), hns⟩
      simp only [RemediationBuilder.buildMissingResourceRemediation, if_pos hkind]
      exact ⟨_, rfl⟩
  | generic =>
      simp only [RemediationBuilder.buildGenericRemediation, if_pos hns]
      exact ⟨_, rfl⟩

theorem length_inspectCommand_relabel (hs : ¬ Silent c) :
    (inspectCommand c).length < (inspectCommand (relabel viewer c)).length := by
  have hname : c.name.length < (relabel viewer c).name.length := length_name_relabel
  have hns : c.ns.length < (relabel viewer c).ns.length := by
    rw [relabel, String.length_append, String.length_append, Nat.add_assoc]
    exact Nat.lt_add_of_pos_right (Nat.add_pos_right _ (by decide))
  have hconfig : (configName c.name).length < (configName (relabel viewer c).name).length := by
    rw [relabel, configName_append, String.length_append]
    exact Nat.lt_succ_of_le (length_configName_le c.name)
  have hbranch : branch (relabel viewer c) = branch c := rfl
  have hsource : (relabel viewer c).source = c.source := rfl
  have hkind : detailString (relabel viewer c) "expectedKind" = detailString c "expectedKind" := rfl
  rw [inspectCommand, inspectCommand, hbranch, hsource, hkind]
  cases hb : branch c with
  | own => exact absurd (.inl hb) hs
  | networkPolicy | resourceQuota | webhook | missingResource | generic =>
      simp only [String.length_append]
      omega

theorem inspectCommand_relabel (hs : ¬ Silent c) : inspectCommand (relabel viewer c) ≠ inspectCommand c :=
  fun h => Nat.ne_of_gt (length_inspectCommand_relabel hs) (congrArg String.length h)

end Build

/-- Two indexes that agree, up to variants of constraints that affect the viewer. -/
def IndexVaried (viewer : String) (idx idx' : Indexer) : Prop :=
  ∀ uid, Option.Rel (fun c c' => c' = c ∨ viewer ∈ c.affectedNamespaces ∧ Variant viewer c c')
    (idx.byUID.lookup uid) (idx'.byUID.lookup uid)

def counterpart (idx' : Indexer) (c : Constraint) : Constraint := (idx'.byUID.lookup c.uid).getD c

section Index
variable {idx idx' : Indexer}

theorem IndexVaried.lookup (h : IndexVaried viewer idx idx') (hc : c ∈ idx.all) :
    idx'.byUID.lookup c.uid = some (counterpart idx' c) ∧ (counterpart idx' c).uid = c.uid ∧
      (counterpart idx' c = c ∨ viewer ∈ c.affectedNamespaces ∧ Variant viewer c (counterpart idx' c)) := by
  have hrel := h c.uid
  rw [Indexer.mem_all.mp hc] at hrel
  rw [counterpart]
  cases hl : idx'.byUID.lookup c.uid with
  | none =>
      rw [hl] at hrel
      cases hrel
  | some c' =>
      rw [hl] at hrel
      cases hrel with
      | some hrel => exact ⟨rfl, KeyedStore.key_of_lookup hl, hrel⟩

theorem matchesNamespace_counterpart (h : IndexVaried viewer idx idx') (hc : c ∈ idx.all) :
    matchesNamespace (counterpart idx' c) viewer = matchesNamespace c viewer := by
  rcases (h.lookup hc).2.2 with heq | ⟨haffects, hv⟩
  · rw [heq]
  · simp [matchesNamespace, hv.affectedNamespaces_eq, haffects]

theorem all_perm_counterpart (h : IndexVaried viewer idx idx') : idx'.all.Perm (idx.all.map (counterpart idx')) := by
  have hinj : ∀ c ∈ idx.all, ∀ d ∈ idx.all, counterpart idx' c = counterpart idx' d → c = d := by
    intro c hc d hd heq
    have huid : c.uid = d.uid := by rw [← (h.lookup hc).2.1, heq, (h.lookup hd).2.1]
    have hsame := (Indexer.mem_all.mp hc).symm.trans (huid ▸ Indexer.mem_all.mp hd)
    exact Option.some.inj hsame
  rw [List.perm_ext_iff_of_nodup idx'.nodup_all (idx.nodup_all.map_on hinj)]
  intro d
  rw [List.mem_map]
  constructor
  · intro hd
    have hl := Indexer.mem_all.mp hd
    have hrel := h d.uid
    rw [hl] at hrel
    cases hc : idx.byUID.lookup d.uid with
    | none =>
        rw [hc] at hrel
        cases hrel
    | some c =>
        have huid : c.uid = d.uid := KeyedStore.key_of_lookup hc
        refine ⟨c, Indexer.mem_all.mpr (huid ▸ hc), ?_⟩
        rw [counterpart, huid, hl]
        rfl
  · rintro ⟨c, hc, rfl⟩
    have hl := h.lookup hc
    rw [Indexer.mem_all, hl.2.1]
    exact hl.1

theorem byNamespace_perm_counterpart (h : IndexVaried viewer idx idx') :
    (idx'.byNamespace viewer).Perm ((idx.byNamespace viewer).map (counterpart idx')) := by
  have hperm := (all_perm_counterpart h).filter (matchesNamespace · viewer)
  rw [List.filter_map] at hperm
  have hfilter : idx.all.filter ((matchesNamespace · viewer) ∘ counterpart idx') = idx.byNamespace viewer :=
    List.filter_congr fun c hc => matchesNamespace_counterpart h hc
  rwa [hfilter] at hperm

theorem IndexVaried.view_perm {β : Type} (h : IndexVaried viewer idx idx') {q : Constraint → Bool}
    {r : Constraint → β} (hq : ∀ {c c'}, Variant viewer c c' → q c' = q c)
    (hr : ∀ c ∈ idx.byNamespace viewer, ∀ c', Variant viewer c c' → r c' = r c) :
    (((idx'.byNamespace viewer).filter q).map r).Perm (((idx.byNamespace viewer).filter q).map r) := by
  have hcounter {c : Constraint} (hc : c ∈ idx.byNamespace viewer) :
      counterpart idx' c = c ∨ Variant viewer c (counterpart idx' c) :=
    (h.lookup (Indexer.mem_byNamespace.mp hc).1).2.2.imp_right And.right
  have hperm := ((byNamespace_perm_counterpart h).filter q).map r
  rw [List.filter_map, List.map_map] at hperm
  have hfilter : (idx.byNamespace viewer).filter (q ∘ counterpart idx') = (idx.byNamespace viewer).filter q := by
    refine List.filter_congr fun c hc => ?_
    rcases hcounter hc with heq | hv
    · rw [Function.comp_apply, heq]
    · exact hq hv
  have hmap : ((idx.byNamespace viewer).filter q).map (r ∘ counterpart idx') =
      ((idx.byNamespace viewer).filter q).map r := by
    refine List.map_congr_left fun c hc => ?_
    have hmem := List.mem_of_mem_filter hc
    rcases hcounter hmem with heq | hv
    · rw [Function.comp_apply, heq]
    · exact hr c hmem _ hv
  rwa [hfilter, hmap] at hperm

theorem IndexVaried.countP_eq (h : IndexVaried viewer idx idx') {q : Constraint → Bool}
    (hq : ∀ {c c'}, Variant viewer c c' → q c' = q c) :
    (idx'.byNamespace viewer).countP q = (idx.byNamespace viewer).countP q := by
  have hperm := h.view_perm hq (r := fun _ => ()) (fun _ _ _ _ => rfl)
  rw [List.countP_eq_length_filter, List.countP_eq_length_filter]
  simpa only [List.length_map] using hperm.length_eq

theorem IndexVaried.any_eq (h : IndexVaried viewer idx idx') {q : Constraint → Bool}
    (hq : ∀ {c c'}, Variant viewer c c' → q c' = q c) :
    (idx'.byNamespace viewer).any q = (idx.byNamespace viewer).any q := by
  rw [Bool.eq_iff_iff, List.any_eq_true, List.any_eq_true, ← List.countP_pos_iff, ← List.countP_pos_iff,
    h.countP_eq hq]

theorem indexVaried_upsert (hc : c ∈ idx.byNamespace viewer) (hv : Variant viewer c c') :
    IndexVaried viewer idx (idx.upsert c').1 := by
  obtain ⟨hall, hmatches⟩ := Indexer.mem_byNamespace.mp hc
  have haffects : viewer ∈ c.affectedNamespaces := by
    simpa [matchesNamespace, hv.hidden.1, hv.hidden.2] using hmatches
  intro uid
  rw [Indexer.upsert, KeyedStore.lookup_upsert, hv.uid_eq]
  split
  · rename_i huid
    have hl : idx.byUID.lookup uid = some c := huid ▸ Indexer.mem_all.mp hall
    rw [hl]
    exact .some (.inr ⟨haffects, hv⟩)
  · cases idx.byUID.lookup uid with
    | none => exact .none
    | some d => exact .some (.inl rfl)

theorem sum_upsert_relabel (hc : c ∈ idx.byNamespace viewer) (hhidden : HiddenFrom viewer c)
    {m : Constraint → Nat} (hm : m c < m (relabel viewer c)) : ((idx.byNamespace viewer).map m).sum <
      (((idx.upsert (relabel viewer c)).1.byNamespace viewer).map m).sum := by
  have hcounter {d : Constraint} (hd : d ∈ idx.all) :
      counterpart (idx.upsert (relabel viewer c)).1 d = if c.uid = d.uid then relabel viewer c else d := by
    rw [counterpart, Indexer.upsert, KeyedStore.lookup_upsert, Indexer.mem_all.mp hd]
    show (if c.uid = d.uid then _ else _ : Option Constraint).getD d = _
    split <;> rfl
  have hall := (Indexer.mem_byNamespace.mp hc).1
  rw [((byNamespace_perm_counterpart (indexVaried_upsert hc (variant_relabel hhidden))).map m).sum_eq]
  refine sum_lt_sum_map hc ?_ fun d hd => ?_
  · rw [hcounter hall, if_pos rfl]
    exact hm
  · have hd := (Indexer.mem_byNamespace.mp hd).1
    rw [hcounter hd]
    split
    · rename_i huid
      have hsame : some c = some d := by rw [← Indexer.mem_all.mp hall, huid, Indexer.mem_all.mp hd]
      cases hsame
      exact Nat.le_of_lt hm
    · exact Nat.le_refl _

end Index

/-- A policy of `payments` that restricts `team`. -/
def paymentsPolicy (name : String) : Constraint where
  uid := "uid"
  source := ⟨"networking.k8s.io", "v1", "networkpolicies"⟩
  name := name
  ns := "payments"
  affectedNamespaces := ["team"]
  constraintType := .networkIngress
  effect := "deny"
  severity := .warning
  summary := "Ingress is denied"

theorem variant_paymentsPolicy (name name' : String) : Variant "team" (paymentsPolicy name) (paymentsPolicy name') := by
  have hhidden : "payments" ≠ "" ∧ "payments" ≠ "team" := by decide
  exact .mk name' "payments" hhidden hhidden

def paymentsIndex : Indexer := (Indexer.new.upsert (paymentsPolicy "deny-all")).1

def renamedIndex : Indexer := (paymentsIndex.upsert (paymentsPolicy "allow-dns")).1

theorem byNamespace_paymentsIndex : paymentsIndex.byNamespace "team" = [paymentsPolicy "deny-all"] := rfl

theorem byNamespace_renamedIndex : renamedIndex.byNamespace "team" = [paymentsPolicy "allow-dns"] := rfl

theorem indexVaried_payments : IndexVaried "team" paymentsIndex renamedIndex :=
  indexVaried_upsert (byNamespace_paymentsIndex ▸ List.mem_cons_self) (variant_paymentsPolicy _ _)

end Nightjar.Notifier
