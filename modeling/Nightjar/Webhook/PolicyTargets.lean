import Nightjar.Webhook.Admission
import Nightjar.Adapters.Kyverno
import Nightjar.Adapters.Gatekeeper
import Nightjar.Adapters.WebhookConfig

namespace Nightjar.Webhook

open Lib.Strings Apimachinery Util

def AdmitsGroup (apiGroups : List String) (group : String) : Prop :=
  apiGroups = [] ∨ "*" ∈ apiGroups ∨ group ∈ apiGroups

section Plural
variable [Unicode]

/-- The resource name that the adapters and the webhook guess for a kind. -/
def guessPlural (kind : String) : String := toLower kind ++ "s"

theorem guessPlural_inj {kind kind' : String} : guessPlural kind = guessPlural kind' ↔ toLower kind = toLower kind' :=
  append_right_inj

theorem guessPlural_ne_wildcard (kind : String) : guessPlural kind ≠ "*" := by
  intro h
  have hlist := congrArg (fun s : String => s.toList.getLast?) h
  simp [guessPlural] at hlist

omit [Unicode] in
theorem targetMatches_iff {group resource : String} {target : ResourceTarget} :
    targetMatches group resource target = true ↔
      AdmitsGroup target.apiGroups group ∧ ("*" ∈ target.resources ∨ resource ∈ target.resources) := by
  simp [targetMatches, AdmitsGroup, List.any_eq_true, and_or_left, or_and_right, exists_or]

theorem constraintApplies_iff {req : AdmissionRequest} {c : Constraint} :
    constraintApplies req c = true ↔ c.resourceTargets = [] ∨ ∃ target ∈ c.resourceTargets,
      AdmitsGroup target.apiGroups req.kind.group ∧
        ("*" ∈ target.resources ∨ guessPlural req.kind.kind ∈ target.resources) := by
  rw [constraintApplies, Bool.or_eq_true, decide_eq_true_eq, List.any_eq_true]
  exact or_congr Iff.rfl (exists_congr fun target => and_congr Iff.rfl targetMatches_iff)

theorem exists_unnamed (kinds : List String) : ∃ kind, ∀ kind' ∈ kinds, guessPlural kind ≠ guessPlural kind' := by
  obtain ⟨kind, hkind⟩ := exists_longer kinds
  refine ⟨kind, fun kind' hkind' heq => ?_⟩
  have hlength := congrArg (fun s : String => s.toList.length) (guessPlural_inj.mp heq)
  simp only [length_toLower] at hlength
  exact absurd (hkind kind' hkind') (by omega)

end Plural

section Gatekeeper
variable [Apimachinery]

/-- The entries of `match.kinds`. -/
def kindEntries (obj : Unstructured) : List Obj :=
  ((safeNestedSlice (safeNestedMap (safeNestedMap obj.object ["spec"]) ["match"]) ["kinds"]).getD []).filterMap asMap

def entryGroups (entry : Obj) : List String := safeNestedStringSlice entry ["apiGroups"]

def entryKinds (entry : Obj) : List String := safeNestedStringSlice entry ["kinds"]

def EntryMatches (entry : Obj) (kind : GVK) : Prop :=
  AdmitsGroup (entryGroups entry) kind.group ∧
    (entryKinds entry = [] ∨ "*" ∈ entryKinds entry ∨ kind.kind ∈ entryKinds entry)

omit [Apimachinery] in
theorem exists_admitsGroup (apiGroups : List String) : ∃ group, AdmitsGroup apiGroups group := by
  cases apiGroups with
  | nil => exact ⟨"", .inl rfl⟩
  | cons group _ => exact ⟨group, .inr (.inr List.mem_cons_self)⟩

variable [Unicode]

theorem resourceTargets_of_gatekeeper {obj : Unstructured} {cs : List Constraint}
    (hparse : Adapters.Gatekeeper.parse obj = .ok cs) {c : Constraint} (hc : c ∈ cs) :
    c.resourceTargets = (kindEntries obj).filterMap Adapters.Gatekeeper.kindTarget := by
  rw [Adapters.Gatekeeper.parse] at hparse
  split at hparse
  · cases hparse
  · rename_i spec hspec
    cases hparse
    rw [List.mem_singleton.mp hc, kindEntries, hspec]
    rfl

theorem exists_parse_of_entry {obj : Unstructured} {entry : Obj} (hentry : entry ∈ kindEntries obj) :
    ∃ c, Adapters.Gatekeeper.parse obj = .ok [c] := by
  rw [Adapters.Gatekeeper.parse]
  cases hspec : safeNestedMap obj.object ["spec"] with
  | none =>
      rw [kindEntries, hspec] at hentry
      cases hentry
  | some spec => exact ⟨_, rfl⟩

theorem kindTarget_eq_some {entry : Obj} {target : ResourceTarget} :
    Adapters.Gatekeeper.kindTarget entry = some target ↔
      entryKinds entry ≠ [] ∧ target = ⟨entryGroups entry, (entryKinds entry).map guessPlural⟩ := by
  rw [Adapters.Gatekeeper.kindTarget]
  split
  · rename_i hkinds
    rw [Option.some.injEq, eq_comm]
    exact (and_iff_right (List.length_pos_iff.mp hkinds)).symm
  · rename_i hkinds
    exact iff_of_false nofun (fun h => hkinds (List.length_pos_iff.mpr h.1))

theorem applies_gatekeeper_iff {obj : Unstructured} {cs : List Constraint}
    (hparse : Adapters.Gatekeeper.parse obj = .ok cs) {c : Constraint} (hc : c ∈ cs) {req : AdmissionRequest} :
    constraintApplies req c = true ↔ (∀ entry ∈ kindEntries obj, entryKinds entry = []) ∨
      ∃ entry ∈ kindEntries obj, AdmitsGroup (entryGroups entry) req.kind.group ∧
        ∃ kind ∈ entryKinds entry, guessPlural req.kind.kind = guessPlural kind := by
  rw [constraintApplies_iff, resourceTargets_of_gatekeeper hparse hc]
  refine or_congr ?_ ⟨?_, ?_⟩
  · rw [List.filterMap_eq_nil_iff]
    refine forall₂_congr fun entry _ => ?_
    rw [Option.eq_none_iff_forall_ne_some]
    constructor
    · intro hnone
      by_contra hkinds
      exact hnone _ (kindTarget_eq_some.mpr ⟨hkinds, rfl⟩)
    · intro hkinds target htarget
      exact (kindTarget_eq_some.mp htarget).1 hkinds
  · rintro ⟨target, htarget, hgroup, hresource⟩
    obtain ⟨entry, hentry, htarget⟩ := List.mem_filterMap.mp htarget
    obtain ⟨-, rfl⟩ := kindTarget_eq_some.mp htarget
    refine ⟨entry, hentry, hgroup, ?_⟩
    rcases hresource with hwildcard | hresource
    · obtain ⟨kind, -, heq⟩ := List.mem_map.mp hwildcard
      exact absurd heq (guessPlural_ne_wildcard kind)
    · obtain ⟨kind, hkind, heq⟩ := List.mem_map.mp hresource
      exact ⟨kind, hkind, heq.symm⟩
  · rintro ⟨entry, hentry, hgroup, kind, hkind, heq⟩
    refine ⟨⟨entryGroups entry, (entryKinds entry).map guessPlural⟩, List.mem_filterMap.mpr ⟨entry, hentry, ?_⟩,
      hgroup, .inr (List.mem_map.mpr ⟨kind, hkind, heq.symm⟩)⟩
    exact kindTarget_eq_some.mpr ⟨List.ne_nil_of_mem hkind, rfl⟩

/-- The kinds of a Gatekeeper constraint are honoured by admission exactly when none of its
entries lists any, or all of them do and none uses the wildcard. -/
theorem gatekeeper_kinds_iff (obj : Unstructured) :
    (∀ cs, Adapters.Gatekeeper.parse obj = .ok cs → ∀ c ∈ cs, ∀ req : AdmissionRequest,
      (∃ entry ∈ kindEntries obj, EntryMatches entry req.kind) → constraintApplies req c = true) ↔
    (∀ entry ∈ kindEntries obj, entryKinds entry = []) ∨
      ∀ entry ∈ kindEntries obj, entryKinds entry ≠ [] ∧ "*" ∉ entryKinds entry := by
  constructor
  · intro h
    refine or_iff_not_imp_left.mpr fun hlists entry hentry => not_or.mp fun hwild => hlists ?_
    obtain ⟨c, hparse⟩ := exists_parse_of_entry hentry
    obtain ⟨group, hgroup⟩ := exists_admitsGroup (entryGroups entry)
    obtain ⟨kind, hkind⟩ := exists_unnamed ((kindEntries obj).flatMap entryKinds)
    let req : AdmissionRequest := ⟨"", ⟨group, "", kind⟩, "", .nil⟩
    have hmatches : EntryMatches entry req.kind := ⟨hgroup, or_assoc.mp (.inl hwild)⟩
    have happlies := h [c] hparse c List.mem_cons_self req ⟨entry, hentry, hmatches⟩
    rcases (applies_gatekeeper_iff hparse List.mem_cons_self).mp happlies with hnone | ⟨entry', hentry', -, hnamed⟩
    · exact hnone
    · obtain ⟨kind', hkind', heq⟩ := hnamed
      exact absurd heq (hkind kind' (List.mem_flatMap.mpr ⟨entry', hentry', hkind'⟩))
  · intro h cs hparse c hc req
    rintro ⟨entry, hentry, hgroup, hkind⟩
    rw [applies_gatekeeper_iff hparse hc]
    rcases h with hnone | hlisted
    · exact .inl hnone
    · obtain ⟨hne, hwildcard⟩ := hlisted entry hentry
      have hkind := (hkind.resolve_left hne).resolve_left hwildcard
      exact .inr ⟨entry, hentry, hgroup, req.kind.kind, hkind, rfl⟩

end Gatekeeper

section Kyverno
variable [Apimachinery]

def blockKinds (block : Obj) : List String := safeNestedStringSlice block ["kinds"]

def EntryNames (entry : String) (kind : GVK) : Prop :=
  ('/' ∉ entry.toList ∧ entry = kind.kind) ∨ ('/' ∉ kind.group.toList ∧ entry = kind.group ++ "/" ++ kind.kind)

omit [Apimachinery] in
def groupPart (entry : String) : Option String :=
  match splitOnce '/' entry with
  | [group, _] => some group
  | _ => none

omit [Apimachinery] in
def kindPart (entry : String) : String :=
  match splitOnce '/' entry with
  | [_, kind] => kind
  | _ => entry

omit [Apimachinery] in
theorem parts_of_grouped {group kind : String} (h : '/' ∉ group.toList) :
    groupPart (group ++ "/" ++ kind) = some group ∧ kindPart (group ++ "/" ++ kind) = kind := by
  rw [groupPart, kindPart, splitOnce_append rfl h]
  exact ⟨rfl, rfl⟩

omit [Apimachinery] in
theorem groupPart_eq_none_iff {entry : String} : groupPart entry = none ↔ '/' ∉ entry.toList := by
  rw [groupPart]
  by_cases h : '/' ∈ entry.toList
  · rw [splitOnce, if_pos h]
    exact iff_of_false (Option.some_ne_none _) (not_not.mpr h)
  · rw [splitOnce_of_not_mem h]
    exact iff_of_true rfl h

/-- A kinds list that is for all groups: it names no group, or any group. -/
def AllGroups (kinds : List String) : Prop :=
  (∀ entry ∈ kinds, '/' ∉ entry.toList) ∨ ∃ entry ∈ kinds, groupPart entry = some "*"

variable [Unicode]

omit [Apimachinery] in
theorem kindsTarget_eq (kinds : List String) : Adapters.Kyverno.kindsTarget kinds =
    if kinds = [] then [] else [⟨uniqueStrings (kinds.filterMap groupPart),
      uniqueStrings (kinds.map (fun entry => guessPlural (kindPart entry)))⟩] := by
  have hzip : kinds.zip (kinds.map (splitOnce '/')) = kinds.map (fun entry => (entry, splitOnce '/' entry)) :=
    List.map_prod_left_eq_zip.symm
  rw [Adapters.Kyverno.kindsTarget]
  dsimp only
  rw [hzip, List.filterMap_map, List.map_map]
  split
  · rfl
  · refine congrArg₂ (fun groups resources => [ResourceTarget.mk (uniqueStrings groups) (uniqueStrings resources)]) rfl
      (List.map_congr_left fun entry _ => ?_)
    rw [Function.comp_apply, kindPart]
    dsimp only
    generalize splitOnce '/' entry = parts
    rcases parts with _ | ⟨_, _ | ⟨_, _ | _⟩⟩ <;> rfl

omit [Apimachinery] in
theorem mem_kindsTarget {kinds : List String} {target : ResourceTarget}
    (h : target ∈ Adapters.Kyverno.kindsTarget kinds) :
    (∀ group, group ∈ target.apiGroups ↔ ∃ entry ∈ kinds, groupPart entry = some group) ∧
    (∀ resource, resource ∈ target.resources ↔ ∃ entry ∈ kinds, guessPlural (kindPart entry) = resource) := by
  rw [kindsTarget_eq] at h
  split at h
  · cases h
  · rw [List.mem_singleton.mp h]
    exact ⟨fun group => mem_unique.trans List.mem_filterMap, fun resource => mem_unique.trans List.mem_map⟩

omit [Apimachinery] in
theorem exists_kindsTarget {kinds : List String} {entry : String} (hentry : entry ∈ kinds) :
    ∃ target, target ∈ Adapters.Kyverno.kindsTarget kinds := by
  rw [kindsTarget_eq, if_neg (List.ne_nil_of_mem hentry)]
  exact ⟨_, List.mem_cons_self⟩

theorem resourceTargets_of_kyverno {obj : Unstructured} {rule : Obj} {index : Nat} {globalAction : String}
    {isClusterPolicy : Bool} {c : Constraint}
    (hparse : Adapters.Kyverno.parseRule obj rule index globalAction isClusterPolicy = .ok (some c)) :
    c.resourceTargets = (Adapters.Kyverno.resourcesBlocks rule).flatMap
      (fun block => Adapters.Kyverno.kindsTarget (blockKinds block)) := by
  cases hparse
  exact (Adapters.Kyverno.extractMatchInfo_eq rule).1

theorem applies_kyverno_iff {obj : Unstructured} {rule : Obj} {index : Nat} {globalAction : String}
    {isClusterPolicy : Bool} {c : Constraint}
    (hparse : Adapters.Kyverno.parseRule obj rule index globalAction isClusterPolicy = .ok (some c))
    {req : AdmissionRequest} :
    constraintApplies req c = true ↔ (∀ block ∈ Adapters.Kyverno.resourcesBlocks rule, blockKinds block = []) ∨
      ∃ block ∈ Adapters.Kyverno.resourcesBlocks rule,
        (AllGroups (blockKinds block) ∨ ∃ entry ∈ blockKinds block, groupPart entry = some req.kind.group) ∧
        ∃ entry ∈ blockKinds block, guessPlural (kindPart entry) = guessPlural req.kind.kind := by
  rw [constraintApplies_iff, resourceTargets_of_kyverno hparse]
  refine or_congr ?_ ⟨?_, ?_⟩
  · rw [List.flatMap_eq_nil_iff]
    refine forall₂_congr fun block _ => ?_
    rw [kindsTarget_eq]
    split <;> simp_all
  · rintro ⟨target, htarget, hgroup, hresource⟩
    obtain ⟨block, hblock, htarget⟩ := List.mem_flatMap.mp htarget
    obtain ⟨hgroups, hresources⟩ := mem_kindsTarget htarget
    refine ⟨block, hblock, ?_, ?_⟩
    · rcases hgroup with hnone | hwildcard | hnamed
      · refine .inl (.inl fun entry hentry => groupPart_eq_none_iff.mp ?_)
        rw [Option.eq_none_iff_forall_ne_some]
        intro group heq
        exact absurd ((hgroups group).mpr ⟨entry, hentry, heq⟩) (hnone ▸ List.not_mem_nil)
      · exact .inl (.inr ((hgroups "*").mp hwildcard))
      · exact .inr ((hgroups _).mp hnamed)
    · rcases hresource with hwildcard | hresource
      · obtain ⟨entry, -, heq⟩ := (hresources "*").mp hwildcard
        exact absurd heq (guessPlural_ne_wildcard _)
      · exact (hresources _).mp hresource
  · rintro ⟨block, hblock, hgroup, entry, hentry, hkind⟩
    obtain ⟨target, htarget⟩ := exists_kindsTarget hentry
    obtain ⟨hgroups, hresources⟩ := mem_kindsTarget htarget
    refine ⟨target, List.mem_flatMap.mpr ⟨block, hblock, htarget⟩, ?_, .inr ((hresources _).mpr ⟨entry, hentry, hkind⟩)⟩
    rcases hgroup with (hbare | hwildcard) | hnamed
    · refine .inl (List.eq_nil_iff_forall_not_mem.mpr fun group hgroup => ?_)
      obtain ⟨entry', hentry', heq⟩ := (hgroups group).mp hgroup
      cases heq.symm.trans (groupPart_eq_none_iff.mpr (hbare entry' hentry'))
    · exact .inr (.inl ((hgroups "*").mpr hwildcard))
    · exact .inr (.inr ((hgroups _).mpr hnamed))

/-- The kinds of a Kyverno rule are all honoured by admission exactly when each bare kind
is also in a list that is for all groups. -/
theorem kyverno_kinds_iff (obj : Unstructured) (rule : Obj) (index : Nat) (globalAction : String)
    (isClusterPolicy : Bool) :
    (∀ c, Adapters.Kyverno.parseRule obj rule index globalAction isClusterPolicy = .ok (some c) →
      ∀ block ∈ Adapters.Kyverno.resourcesBlocks rule, ∀ entry ∈ blockKinds block, ∀ req : AdmissionRequest,
        EntryNames entry req.kind → constraintApplies req c = true) ↔
    ∀ block ∈ Adapters.Kyverno.resourcesBlocks rule, ∀ entry ∈ blockKinds block, '/' ∉ entry.toList →
      ∃ block' ∈ Adapters.Kyverno.resourcesBlocks rule, AllGroups (blockKinds block') ∧
        ∃ entry' ∈ blockKinds block', toLower (kindPart entry') = toLower entry := by
  constructor
  · intro h block hblock entry hentry hbare
    obtain ⟨group, hgroup⟩ := exists_longer ((Adapters.Kyverno.resourcesBlocks rule).flatMap (fun block =>
      (blockKinds block).filterMap groupPart))
    let req : AdmissionRequest := ⟨"", ⟨group, "", entry⟩, "", .nil⟩
    have happlies := h _ rfl block hblock entry hentry req (.inl ⟨hbare, rfl⟩)
    rcases (applies_kyverno_iff rfl).mp happlies with hnone | ⟨block', hblock', hgroups, entry', hentry', heq⟩
    · rw [hnone block hblock] at hentry
      cases hentry
    · refine ⟨block', hblock', hgroups.resolve_right ?_, entry', hentry', guessPlural_inj.mp heq⟩
      rintro ⟨entry'', hentry'', hnamed⟩
      exact lt_irrefl _ (hgroup group (List.mem_flatMap.mpr
        ⟨block', hblock', List.mem_filterMap.mpr ⟨entry'', hentry'', hnamed⟩⟩))
  · intro h c hparse block hblock entry hentry req hnames
    rw [applies_kyverno_iff hparse]
    rcases hnames with ⟨hbare, rfl⟩ | ⟨hgroup, rfl⟩
    · obtain ⟨block', hblock', hgroups, entry', hentry', heq⟩ := h block hblock _ hentry hbare
      exact .inr ⟨block', hblock', .inl hgroups, entry', hentry', guessPlural_inj.mpr heq⟩
    · obtain ⟨hgroupPart, hkindPart⟩ := parts_of_grouped hgroup
      exact .inr ⟨block, hblock, .inr ⟨_, hentry, hgroupPart⟩, _, hentry, congrArg guessPlural hkindPart⟩

end Kyverno

section WebhookConfig
variable [Apimachinery]

/-- The rules of an entry of `webhooks`. -/
def webhookRules (webhook : Obj) : List Obj := ((safeNestedSlice webhook ["rules"]).getD []).filterMap asMap

def ruleGroups (rule : Obj) : List String := safeNestedStringSlice rule ["apiGroups"]

def ruleResources (rule : Obj) : List String := safeNestedStringSlice rule ["resources"]

/-- The API server sends requests for a main resource, given by its group and its plural
name, to the webhook for this rule. -/
def RuleMatches (rule : Obj) (group plural : String) : Prop :=
  ("*" ∈ ruleGroups rule ∨ group ∈ ruleGroups rule) ∧
    ("*" ∈ ruleResources rule ∨ "*/*" ∈ ruleResources rule ∨ plural ∈ ruleResources rule)

theorem mem_ruleTargets {webhook rule : Obj} (hrule : rule ∈ webhookRules webhook) (hgroups : ruleGroups rule ≠ [])
    (hresources : ruleResources rule ≠ []) :
    ⟨ruleGroups rule, ruleResources rule⟩ ∈ (webhookRules webhook).filterMap Adapters.WebhookConfig.ruleTarget := by
  refine List.mem_filterMap.mpr ⟨rule, hrule, ?_⟩
  exact if_pos ⟨List.length_pos_iff.mpr hgroups, List.length_pos_iff.mpr hresources⟩

variable [Unicode]

/-- A rule is honoured by admission for the kinds whose plural is the guessed one, and for
all kinds when it is for all resources. -/
theorem webhook_rules_honoured (obj : Unstructured) (webhook : Obj) (i : Nat) {rule : Obj}
    (hrule : rule ∈ webhookRules webhook) (req : AdmissionRequest) (plural : String)
    (hgroup : "*" ∈ ruleGroups rule ∨ req.kind.group ∈ ruleGroups rule)
    (hresource : "*" ∈ ruleResources rule ∨ plural ∈ ruleResources rule ∧ plural = guessPlural req.kind.kind) :
    constraintApplies req (Adapters.WebhookConfig.webhookConstraint obj webhook i) = true := by
  have hgroups : ruleGroups rule ≠ [] := hgroup.elim List.ne_nil_of_mem List.ne_nil_of_mem
  have hresources : ruleResources rule ≠ [] :=
    hresource.elim List.ne_nil_of_mem (fun h => List.ne_nil_of_mem h.1)
  refine constraintApplies_iff.mpr (.inr ⟨_, mem_ruleTargets hrule hgroups hresources, .inr hgroup, ?_⟩)
  rcases hresource with hwildcard | ⟨hplural, rfl⟩
  · exact .inl hwildcard
  · exact .inr hplural

end WebhookConfig

section Samples
attribute [local instance] Apimachinery.model asciiTables

def requestFor (group version kind : String) : AdmissionRequest where
  uid := "u"
  kind := ⟨group, version, kind⟩
  ns := "team"
  object := .nil

def podsAndDeployments : Obj :=
  [("name", .str "require-labels"), ("match", .map [("resources", .map [
    ("kinds", .slice [.str "Pod", .str "apps/Deployment"])])])]

theorem kyverno_pod_dropped :
    Adapters.Kyverno.resourcesBlocks podsAndDeployments = [[("kinds", .slice [.str "Pod", .str "apps/Deployment"])]] ∧
    "Pod" ∈ blockKinds [("kinds", .slice [.str "Pod", .str "apps/Deployment"])] ∧
    EntryNames "Pod" ⟨"", "v1", "Pod"⟩ ∧
    ∃ c, Adapters.Kyverno.parseRule ⟨[]⟩ podsAndDeployments 0 "Enforce" true = .ok (some c) ∧
      constraintApplies (requestFor "" "v1" "Pod") c = false :=
  ⟨rfl, by decide, .inl ⟨by decide, rfl⟩, _, rfl, by decide⟩

def coreGroup : Unstructured :=
  ⟨[("kind", .str "K8sRequiredLabels"), ("spec", .map [("match", .map [("kinds", .slice [.map [
    ("apiGroups", .slice [.str ""]), ("kinds", .slice [.str "*"])]])])])]⟩

theorem gatekeeper_wildcard_dropped :
    (∃ entry ∈ kindEntries coreGroup, EntryMatches entry ⟨"", "v1", "Pod"⟩) ∧
    ∃ c, Adapters.Gatekeeper.parse coreGroup = .ok [c] ∧ constraintApplies (requestFor "" "v1" "Pod") c = false := by
  refine ⟨⟨_, List.mem_cons_self, .inr (.inr ?_), .inr (.inl ?_)⟩, _, rfl, by decide⟩
  · decide
  · decide

def webhookFor (group resource : String) : Obj :=
  [("name", .str "test-validating.e2e.example.com"), ("rules", .slice [.map [
    ("apiGroups", .slice [.str group]), ("resources", .slice [.str resource])]])]

theorem webhook_rules_honoured_pods :
    constraintApplies (requestFor "" "v1" "Pod")
      (Adapters.WebhookConfig.webhookConstraint ⟨[]⟩ (webhookFor "" "pods") 0) = true :=
  webhook_rules_honoured ⟨[]⟩ (webhookFor "" "pods") 0 List.mem_cons_self (requestFor "" "v1" "Pod") "pods"
    (.inr (by decide)) (.inr ⟨by decide, by decide⟩)

theorem webhook_rules_missed :
    (∃ rule ∈ webhookRules (webhookFor "networking.k8s.io" "networkpolicies"),
      RuleMatches rule "networking.k8s.io" "networkpolicies") ∧
    constraintApplies (requestFor "networking.k8s.io" "v1" "NetworkPolicy")
      (Adapters.WebhookConfig.webhookConstraint ⟨[]⟩ (webhookFor "networking.k8s.io" "networkpolicies") 0) = false ∧
    (∃ rule ∈ webhookRules (webhookFor "*" "*/*"), RuleMatches rule "" "pods") ∧
    constraintApplies (requestFor "" "v1" "Pod")
      (Adapters.WebhookConfig.webhookConstraint ⟨[]⟩ (webhookFor "*" "*/*") 0) = false := by
  refine ⟨⟨_, List.mem_cons_self, .inr ?_, .inr (.inr ?_)⟩, by decide, ⟨_, List.mem_cons_self, .inl ?_, .inr (.inl ?_)⟩,
    by decide⟩
  all_goals decide

end Samples

end Nightjar.Webhook
