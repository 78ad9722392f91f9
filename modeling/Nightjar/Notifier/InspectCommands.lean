import Nightjar.Adapters.NetworkPolicy
import Nightjar.Adapters.ResourceQuota
import Nightjar.Adapters.LimitRange
import Nightjar.Adapters.WebhookConfig
import Nightjar.Adapters.Generic
import Nightjar.Notifier.Remediation

namespace Nightjar.Notifier

open Lib.Strings Apimachinery Util Adapters

/-- The singular names of the resources that `Build` tells apart. That of a custom resource is for
its definition to say. -/
def singularName : String → Option String
  | "networkpolicies" => some "networkpolicy"
  | "ciliumnetworkpolicies" => some "ciliumnetworkpolicy"
  | "ciliumclusterwidenetworkpolicies" => some "ciliumclusterwidenetworkpolicy"
  | "resourcequotas" => some "resourcequota"
  | "limitranges" => some "limitrange"
  | "validatingwebhookconfigurations" => some "validatingwebhookconfiguration"
  | "mutatingwebhookconfigurations" => some "mutatingwebhookconfiguration"
  | _ => none

def EndsWord (rest : String) : Prop := rest = "" ∨ ∃ more, rest = " " ++ more

def typeNames (resource : String) : List String := resource :: (singularName resource).toList

def kubectl (verb type tail : String) : String := "kubectl " ++ verb ++ " " ++ type ++ " " ++ tail

/-- The command gets or describes the object of the name, by its resource type. -/
def Inspects (command resource name : String) : Prop :=
  ∃ verb ∈ ["get", "describe"], ∃ type ∈ typeNames resource, ∃ rest, EndsWord rest ∧
    command = kubectl verb type (name ++ rest)

def RemediationInfo.firstCommand (info : RemediationInfo) : Option String :=
  (info.steps.find? (fun step => decide (step.type = "kubectl"))).map RemediationStep.command

theorem not_endsWord_dash (rest : String) : ¬ EndsWord ("-" ++ rest) := by
  rintro (h | ⟨more, h⟩) <;> simpa using congrArg String.toList h

theorem endsWord_ns (ns : String) : EndsWord (" -n " ++ ns) := by
  refine .inr ⟨"-n " ++ ns, ?_⟩
  rw [← String.append_assoc]
  rfl

theorem dash_toList : "-".toList = ['-'] := rfl

theorem blank_toList : " ".toList = [' '] := rfl

theorem configName_of_not_mem {name : String} (h : '-' ∉ name.toList) : configName name = name := by
  have hnone : name.toList.reverse.dropWhile (· ≠ '-') = [] := by
    rw [List.dropWhile_eq_nil_iff]
    intro c hc
    exact decide_eq_true (ne_of_mem_of_not_mem (List.mem_reverse.mp hc) h)
  rw [configName, hnone]
  rfl

theorem configName_append_dash {before after : String} (h : '-' ∉ after.toList) :
    configName (before ++ "-" ++ after) = if before = "" then "-" ++ after else before := by
  have hrev : (before ++ "-" ++ after).toList.reverse = after.toList.reverse ++ '-' :: before.toList.reverse := by
    simp
  have hall : ∀ c ∈ after.toList.reverse, decide (c ≠ '-') = true := by
    intro c hc
    exact decide_eq_true (ne_of_mem_of_not_mem (List.mem_reverse.mp hc) h)
  rw [configName, hrev, List.dropWhile_append_of_pos hall]
  simp only [ne_eq, not_true_eq_false, decide_false, Bool.false_eq_true, not_false_eq_true,
    List.dropWhile_cons_of_neg, List.drop_succ_cons, List.drop_zero, List.reverse_reverse, String.ofList_toList,
    String.toList_eq_nil_iff]
  split
  · rename_i hempty
    rw [hempty, String.empty_append]
  · rfl

def webhookResources : List String := ["validatingwebhookconfigurations", "mutatingwebhookconfigurations"]

/-- The resources that `Build` has inspected under the name of another one. -/
def misnamedResources : List String :=
  ["ciliumnetworkpolicies", "ciliumclusterwidenetworkpolicies", "limitranges"]

section Branches
variable {c : Constraint}

/-- The constraint has none of the sources that `Build` knows. -/
structure OtherSource (c : Constraint) : Prop where
  networkPolicy : ¬ isNetworkPolicySource c
  resourceQuota : ¬ isResourceQuotaSource c
  webhook : ¬ isWebhookSource c

/-- What `Build` has found when it takes a branch. -/
def Branch.Found (c : Constraint) : Branch → Prop
  | .own => 0 < c.remediation.length
  | .networkPolicy => isNetworkPolicySource c
  | .resourceQuota => isResourceQuotaSource c
  | .webhook => isWebhookSource c
  | .missingResource => OtherSource c ∧ c.constraintType = .missing
  | .generic => OtherSource c

theorem found_of_branch {b : Branch} (h : branch c = b) : b.Found c := by
  subst h
  rw [branch]
  split_ifs with hown hnet hquota hwebhook hmissing
  · exact hown
  · exact hnet
  · exact hquota
  · exact hwebhook
  · exact ⟨⟨hnet, hquota, hwebhook⟩, hmissing⟩
  · exact ⟨hnet, hquota, hwebhook⟩

theorem resource_of_networkPolicy (h : branch c = .networkPolicy) :
    c.source.resource = "networkpolicies" ∨ c.source.resource ∈ misnamedResources := by
  have hsource : isNetworkPolicySource c = true := found_of_branch h
  simp only [isNetworkPolicySource, Bool.or_eq_true, decide_eq_true_eq] at hsource
  rcases hsource with (hr | hr) | hr <;> rw [hr] <;> decide

theorem resource_of_resourceQuota (h : branch c = .resourceQuota) :
    c.source.resource = "resourcequotas" ∨ c.source.resource = "limitranges" := by
  have hsource : isResourceQuotaSource c = true := found_of_branch h
  simpa [isResourceQuotaSource] using hsource

theorem resource_of_webhook (h : branch c = .webhook) : c.source.resource ∈ webhookResources := by
  have hsource : isWebhookSource c = true := found_of_branch h
  simpa [isWebhookSource, webhookResources] using hsource

theorem OtherSource.resource (h : OtherSource c) :
    c.source.resource ∉ misnamedResources ∧ c.source.resource ∉ webhookResources := by
  obtain ⟨hnet, hquota, hwebhook⟩ := h
  simp only [isNetworkPolicySource, isResourceQuotaSource, isWebhookSource, Bool.or_eq_true, decide_eq_true_eq,
    not_or] at hnet hquota hwebhook
  simp [misnamedResources, webhookResources, hnet, hquota, hwebhook]

theorem resource_of_other (h : branch c = .missingResource ∨ branch c = .generic) :
    c.source.resource ∉ misnamedResources ∧ c.source.resource ∉ webhookResources := by
  rcases h with h | h
  · exact (found_of_branch h).1.resource
  · exact OtherSource.resource (found_of_branch h)

theorem branch_of_webhook_resource (hown : c.remediation = []) (hr : c.source.resource ∈ webhookResources) :
    branch c = .webhook := by
  have hother : ∀ resource ∈ webhookResources, resource ∉ ["networkpolicies", "ciliumnetworkpolicies",
      "ciliumclusterwidenetworkpolicies", "resourcequotas", "limitranges"] := by decide
  have hne := hother _ hr
  simp only [List.mem_cons, List.not_mem_nil, or_false, not_or] at hne
  simp only [webhookResources, List.mem_cons, List.not_mem_nil, or_false] at hr
  simp [branch, isNetworkPolicySource, isResourceQuotaSource, isWebhookSource, hown, hne, hr]

theorem type_of_missingResource (h : branch c = .missingResource) : c.constraintType = .missing := (found_of_branch h).2

theorem branch_ne_own (h : c.remediation = []) : branch c ≠ .own := by
  intro hown
  have hlength : 0 < c.remediation.length := found_of_branch hown
  rw [h] at hlength
  exact Nat.not_lt_zero 0 hlength

end Branches

theorem kubectl_get (type tail : String) : kubectl "get" type tail = "kubectl get " ++ type ++ " " ++ tail := rfl

theorem kubectl_get_networkpolicy (tail : String) :
    kubectl "get" "networkpolicy" tail = "kubectl get networkpolicy " ++ tail := rfl

theorem kubectl_describe_resourcequota (tail : String) :
    kubectl "describe" "resourcequota" tail = "kubectl describe resourcequota " ++ tail := rfl

section Build
variable [Unicode] (rb : RemediationBuilder) {c : Constraint}

theorem firstCommand_networkPolicy (h : branch c = .networkPolicy) : (rb.build c).firstCommand =
    if c.ns = "" then none
    else some (kubectl "get" "networkpolicy" (c.name ++ (" -n " ++ (c.ns ++ " -o yaml")))) := by
  rw [RemediationBuilder.build, h, kubectl_get_networkpolicy]
  by_cases hns : c.ns = "" <;>
    simp [RemediationBuilder.buildNetworkPolicyRemediation, RemediationInfo.firstCommand, hns, String.append_assoc]

theorem firstCommand_resourceQuota (h : branch c = .resourceQuota) : (rb.build c).firstCommand =
    if c.ns = "" then none
    else some (kubectl "describe" "resourcequota" (c.name ++ (" -n " ++ c.ns))) := by
  rw [RemediationBuilder.build, h, kubectl_describe_resourcequota]
  by_cases hns : c.ns = "" <;>
    simp [RemediationBuilder.buildResourceQuotaRemediation, RemediationInfo.firstCommand, hns, String.append_assoc]

theorem firstCommand_webhook (h : branch c = .webhook) : (rb.build c).firstCommand =
    some (kubectl "get" c.source.resource (configName c.name ++ " -o yaml")) := by
  have hkind : (if c.source.resource = "mutatingwebhookconfigurations" then "mutatingwebhookconfigurations"
      else "validatingwebhookconfigurations") = c.source.resource := by
    have hresource : ∀ resource ∈ webhookResources, (if resource = "mutatingwebhookconfigurations" then
        "mutatingwebhookconfigurations" else "validatingwebhookconfigurations") = resource := by decide
    exact hresource _ (resource_of_webhook h)
  rw [RemediationBuilder.build, h, kubectl_get]
  simp [RemediationBuilder.buildWebhookRemediation, RemediationInfo.firstCommand, hkind, String.append_assoc]

theorem firstCommand_missingResource (h : branch c = .missingResource)
    (hkind : detailString c "expectedKind" = "") : (rb.build c).firstCommand = none := by
  rw [RemediationBuilder.build, h]
  simp [RemediationBuilder.buildMissingResourceRemediation, RemediationInfo.firstCommand, hkind,
    missingResourceTemplate]

theorem firstCommand_generic (h : branch c = .generic) : ∃ rest, EndsWord rest ∧
    (rb.build c).firstCommand = some (kubectl "get" c.source.resource (c.name ++ rest)) := by
  rw [RemediationBuilder.build, h]
  simp only [kubectl_get]
  by_cases hns : c.ns = ""
  · refine ⟨" -o yaml", .inr ⟨"-o yaml", rfl⟩, ?_⟩
    simp [RemediationBuilder.buildGenericRemediation, RemediationInfo.firstCommand, hns, String.append_assoc]
  · refine ⟨" -n " ++ (c.ns ++ " -o yaml"), endsWord_ns _, ?_⟩
    simp [RemediationBuilder.buildGenericRemediation, RemediationInfo.firstCommand, hns, String.append_assoc]

end Build

theorem kubectl_inj {verb verb' type type' : String} (hverb : ' ' ∉ verb.toList) (hverb' : ' ' ∉ verb'.toList)
    (htype : ' ' ∉ type.toList) (htype' : ' ' ∉ type'.toList) (tail tail' : String) :
    kubectl verb type tail = kubectl verb' type' tail' ↔ verb = verb' ∧ type = type' ∧ tail = tail' := by
  have hwords (verb type tail : String) :
      kubectl verb type tail = "kubectl " ++ (verb ++ " " ++ (type ++ " " ++ tail)) := by
    rw [kubectl, String.append_assoc, String.append_assoc, String.append_assoc, String.append_assoc,
      String.append_assoc, String.append_assoc]
  rw [hwords, hwords, String.append_right_inj, append_sep_inj blank_toList hverb hverb',
    append_sep_inj blank_toList htype htype']

theorem inspects_kubectl_iff {verb type resource : String} (hverb : ' ' ∉ verb.toList) (htype : ' ' ∉ type.toList)
    (hresource : ∀ type ∈ typeNames resource, ' ' ∉ type.toList) (tail name : String) :
    Inspects (kubectl verb type tail) resource name ↔
      verb ∈ ["get", "describe"] ∧ type ∈ typeNames resource ∧ ∃ rest, EndsWord rest ∧ tail = name ++ rest := by
  have hverbs : ∀ verb ∈ ["get", "describe"], ' ' ∉ verb.toList := by decide
  constructor
  · rintro ⟨verb', hmem, type', hmem', rest, hrest, heq⟩
    obtain ⟨rfl, rfl, rfl⟩ := (kubectl_inj hverb (hverbs _ hmem) htype (hresource _ hmem') _ _).mp heq
    exact ⟨hmem, hmem', rest, hrest, rfl⟩
  · rintro ⟨hmem, hmem', rest, hrest, rfl⟩
    exact ⟨verb, hmem, type, hmem', rest, hrest, rfl⟩

theorem inspects_webhook_iff {resource : String} (h : resource ∈ webhookResources) (tail name : String) :
    Inspects (kubectl "get" resource tail) resource name ↔ ∃ rest, EndsWord rest ∧ tail = name ++ rest := by
  have hwords : ∀ resource ∈ webhookResources, ∀ type ∈ typeNames resource, ' ' ∉ type.toList := by
    decide +kernel
  have hself : resource ∈ typeNames resource := List.mem_cons_self
  rw [inspects_kubectl_iff (by decide) (hwords resource h resource hself) (hwords resource h),
    and_iff_right (by decide), and_iff_right hself]

theorem not_inspects_misnamed {verb type resource : String} (h : resource ∈ misnamedResources)
    (hcommand : (verb, type) ∈ [("get", "networkpolicy"), ("describe", "resourcequota")]) (tail name : String) :
    ¬ Inspects (kubectl verb type tail) resource name := by
  have hwords : ∀ resource ∈ misnamedResources, ∀ type ∈ typeNames resource, ' ' ∉ type.toList := by
    decide +kernel
  have hcommands : ∀ command ∈ [("get", "networkpolicy"), ("describe", "resourcequota")],
      ' ' ∉ command.1.toList ∧ ' ' ∉ command.2.toList ∧
        ∀ resource ∈ misnamedResources, command.2 ∉ typeNames resource := by decide
  obtain ⟨hverb, htype, hnot⟩ := hcommands _ hcommand
  rw [inspects_kubectl_iff hverb htype (hwords resource h)]
  exact fun hnames => hnot resource h hnames.2.1

theorem configName_continues_iff (name : String) :
    (∃ rest, EndsWord rest ∧ configName name ++ " -o yaml" = name ++ rest) ↔ '-' ∉ name.toList.tail := by
  have hyaml : EndsWord " -o yaml" := .inr ⟨"-o yaml", rfl⟩
  by_cases hdash : '-' ∈ name.toList
  · obtain ⟨before, after, rfl, hafter⟩ := exists_last_sep dash_toList hdash
    rw [configName_append_dash hafter]
    by_cases hbefore : before = ""
    · rw [if_pos hbefore, hbefore, String.empty_append]
      exact iff_of_true ⟨" -o yaml", hyaml, rfl⟩ (by simpa using hafter)
    · rw [if_neg hbefore]
      have htail : '-' ∈ (before ++ "-" ++ after).toList.tail := by
        cases hlist : before.toList with
        | nil => exact absurd (String.toList_eq_nil_iff.mp hlist) hbefore
        | cons c cs => simp [hlist]
      refine iff_of_false ?_ (not_not_intro htail)
      rintro ⟨rest, -, heq⟩
      rw [String.append_assoc, String.append_assoc, String.append_right_inj] at heq
      simpa using congrArg String.toList heq
  · rw [configName_of_not_mem hdash]
    exact iff_of_true ⟨" -o yaml", hyaml, rfl⟩ (fun h => hdash (List.mem_of_mem_tail h))

theorem configName_webhook_iff (config webhook : String) :
    (∃ rest, EndsWord rest ∧ configName (config ++ "-" ++ webhook) ++ " -o yaml" = config ++ rest) ↔
      config ≠ "" ∧ '-' ∉ webhook.toList := by
  by_cases hdash : '-' ∈ webhook.toList
  · refine iff_of_false ?_ (fun h => h.2 hdash)
    rintro ⟨rest, hrest, heq⟩
    obtain ⟨before, after, rfl, hafter⟩ := exists_last_sep dash_toList hdash
    have hcut : config ++ "-" ++ (before ++ "-" ++ after) = (config ++ "-" ++ before) ++ "-" ++ after := by
      simp only [String.append_assoc]
    have hne : config ++ "-" ++ before ≠ "" := by
      intro h
      simpa using congrArg String.toList h
    rw [hcut, configName_append_dash hafter, if_neg hne, String.append_assoc, String.append_assoc,
      String.append_right_inj] at heq
    rw [← heq] at hrest
    exact not_endsWord_dash _ hrest
  · rw [configName_append_dash hdash]
    by_cases hconfig : config = ""
    · refine iff_of_false ?_ (fun h => h.1 hconfig)
      rintro ⟨rest, hrest, heq⟩
      rw [if_pos hconfig, hconfig, String.empty_append, String.append_assoc] at heq
      rw [← heq] at hrest
      exact not_endsWord_dash _ hrest
    · rw [if_neg hconfig]
      exact iff_of_true ⟨" -o yaml", .inr ⟨"-o yaml", rfl⟩, rfl⟩ ⟨hconfig, hdash⟩

/-- What keeps the inspect command of a constraint that has its object's own name right: none is
built for a resource that is misnamed, and a configuration's name has no dash to be cut at. -/
def NamedAlike (resource ns name : String) : Prop :=
  (resource ∈ misnamedResources → ns = "") ∧ (resource ∈ webhookResources → '-' ∉ name.toList.tail)

theorem namedAlike_misnamed {resource : String} (h : resource ∈ misnamedResources) (ns name : String) :
    NamedAlike resource ns name ↔ ns = "" := by
  have hnot : ∀ resource ∈ misnamedResources, resource ∉ webhookResources := by decide
  simp [NamedAlike, h, hnot resource h]

theorem namedAlike_webhook {resource : String} (h : resource ∈ webhookResources) (ns name : String) :
    NamedAlike resource ns name ↔ '-' ∉ name.toList.tail := by
  have hnot : ∀ resource ∈ webhookResources, resource ∉ misnamedResources := by decide
  simp [NamedAlike, h, hnot resource h]

theorem namedAlike_other {resource : String} (h : resource ∉ misnamedResources) (h' : resource ∉ webhookResources)
    (ns name : String) : NamedAlike resource ns name :=
  ⟨fun hm => absurd hm h, fun hm => absurd hm h'⟩

theorem namedAlike_networkpolicies (ns name : String) : NamedAlike "networkpolicies" ns name :=
  namedAlike_other (by decide) (by decide) ns name

theorem namedAlike_resourcequotas (ns name : String) : NamedAlike "resourcequotas" ns name :=
  namedAlike_other (by decide) (by decide) ns name

section Sources
variable [Unicode]

/-- The first `kubectl` step, if there is one, inspects the object. -/
def RemediationBuilder.NamesSource (rb : RemediationBuilder) (c : Constraint) (resource name : String) : Prop :=
  ∀ command ∈ (rb.build c).firstCommand, Inspects command resource name

variable {rb : RemediationBuilder} {c : Constraint} {resource name : String}

theorem namesSource_some {command : String} (h : (rb.build c).firstCommand = some command) :
    rb.NamesSource c resource name ↔ Inspects command resource name := by
  simp [RemediationBuilder.NamesSource, h]

theorem namesSource_namespaced {command : String}
    (h : (rb.build c).firstCommand = if c.ns = "" then none else some command) :
    rb.NamesSource c resource name ↔ c.ns = "" ∨ Inspects command resource name := by
  by_cases hns : c.ns = "" <;> simp [RemediationBuilder.NamesSource, h, hns]

theorem namesSource_resourceQuota_of_limitRange (hb : branch c = .resourceQuota)
    (hr : resource = "limitranges") : rb.NamesSource c resource name ↔ c.ns = "" := by
  rw [namesSource_namespaced (firstCommand_resourceQuota rb hb), hr]
  exact or_iff_left (not_inspects_misnamed (by decide) (by decide) _ _)

theorem namesSource_plain_iff (hown : c.remediation = [])
    (hkind : c.constraintType = .missing → detailString c "expectedKind" = "") :
    rb.NamesSource c c.source.resource c.name ↔ NamedAlike c.source.resource c.ns c.name := by
  cases hb : branch c with
  | own => exact absurd hb (branch_ne_own hown)
  | networkPolicy =>
    rw [namesSource_namespaced (firstCommand_networkPolicy rb hb)]
    rcases resource_of_networkPolicy hb with hr | hr
    · rw [hr]
      exact iff_of_true (.inr ⟨"get", by decide, "networkpolicy", by decide, _, endsWord_ns _, rfl⟩)
        (namedAlike_networkpolicies _ _)
    · rw [namedAlike_misnamed hr]
      exact or_iff_left (not_inspects_misnamed hr (by decide) _ _)
  | resourceQuota =>
    rcases resource_of_resourceQuota hb with hr | hr
    · rw [namesSource_namespaced (firstCommand_resourceQuota rb hb), hr]
      exact iff_of_true (.inr ⟨"describe", by decide, "resourcequota", by decide, _, endsWord_ns _, rfl⟩)
        (namedAlike_resourcequotas _ _)
    · rw [namesSource_resourceQuota_of_limitRange hb hr, namedAlike_misnamed (by rw [hr]; decide)]
  | webhook =>
    have hr := resource_of_webhook hb
    rw [namesSource_some (firstCommand_webhook rb hb), inspects_webhook_iff hr, configName_continues_iff,
      namedAlike_webhook hr]
  | missingResource =>
    have hnone := firstCommand_missingResource rb hb (hkind (type_of_missingResource hb))
    refine iff_of_true ?_ (namedAlike_other (resource_of_other (.inl hb)).1 (resource_of_other (.inl hb)).2 _ _)
    simp [RemediationBuilder.NamesSource, hnone]
  | generic =>
    obtain ⟨rest, hrest, hcommand⟩ := firstCommand_generic rb hb
    rw [namesSource_some hcommand]
    exact iff_of_true ⟨"get", by decide, _, List.mem_cons_self, rest, hrest, rfl⟩
      (namedAlike_other (resource_of_other (.inr hb)).1 (resource_of_other (.inr hb)).2 _ _)

end Sources

/-- The ways the adapters are called with an object. `Parse` of the generic adapter knows the resource by its
guess only; the engine calls the other two, with the resource it watches. -/
inductive AdapterCall where
  | networkPolicy
  | resourceQuota
  | limitRange
  | webhookConfig
  | generic (gvr : GVR)
  | configured (gvr : GVR) (cfg : Generic.ParseConfig)
  | guessed

namespace AdapterCall

variable [Apimachinery] [Unicode]

def parse (obj : Unstructured) : AdapterCall → Except String (List Constraint)
  | networkPolicy => NetworkPolicy.parse obj
  | resourceQuota => ResourceQuota.parse obj
  | limitRange => LimitRange.parse obj
  | webhookConfig => WebhookConfig.parse obj
  | generic gvr => Generic.parseWithGVR obj gvr
  | configured gvr cfg => Generic.parseWithConfig obj gvr cfg
  | guessed => Generic.parse obj

/-- The resource type of the object. -/
def resource (obj : Unstructured) : AdapterCall → String
  | networkPolicy => "networkpolicies"
  | resourceQuota => "resourcequotas"
  | limitRange => "limitranges"
  | webhookConfig =>
      if WebhookConfig.isValidating obj then "validatingwebhookconfigurations" else "mutatingwebhookconfigurations"
  | generic gvr | configured gvr _ => gvr.resource
  | guessed => Generic.guessResource (groupVersionKind obj).kind

end AdapterCall

section Objects
variable [Apimachinery]

def limitsOf (obj : Unstructured) : List Obj :=
  ((safeNestedMap obj.object ["spec"]).bind (fun spec => safeNestedSlice spec ["limits"])).getD [] |>.filterMap asMap

variable [Unicode]

/-- The webhooks of a configuration that are not Nightjar's own. -/
def webhooksOf (obj : Unstructured) : List Obj :=
  ((safeNestedSlice obj.object ["webhooks"]).getD []).filterMap WebhookConfig.ownedElsewhere

/-- The type and the name of the object come through: the limits of a LimitRange are filed
under names of their own, the name of a webhook is not told from its configuration's where
it has a dash, and a constraint of the generic adapter is built like those of its resource. -/
def AdapterCall.NamesKept (obj : Unstructured) : AdapterCall → Prop
  | .networkPolicy | .resourceQuota => True
  | .limitRange => limitsOf obj = [] ∨ getNamespace obj = ""
  | .webhookConfig =>
      ∀ webhook ∈ webhooksOf obj, getName obj ≠ "" ∧ '-' ∉ (safeStringFromMap webhook "name").toList
  | .generic gvr | .configured gvr _ => NamedAlike gvr.resource (getNamespace obj) (getName obj)
  | .guessed => NamedAlike (Generic.guessResource (groupVersionKind obj).kind) (getNamespace obj) (getName obj)

variable {rb : RemediationBuilder} {obj : Unstructured} {cs : List Constraint}

theorem namesSource_networkPolicy (h : NetworkPolicy.parse obj = .ok cs) :
    ∀ c ∈ cs, rb.NamesSource c "networkpolicies" (getName obj) := by
  intro c hc
  obtain ⟨spec, type, summary, details, htype, rfl⟩ := NetworkPolicy.direction_of_mem_parse h hc
  refine (namesSource_plain_iff rfl ?_).mpr (namedAlike_networkpolicies _ _)
  intro hmissing
  rcases htype with rfl | rfl <;> cases hmissing

theorem namesSource_resourceQuota (h : ResourceQuota.parse obj = .ok cs) :
    ∀ c ∈ cs, rb.NamesSource c "resourcequotas" (getName obj) := by
  rw [ResourceQuota.parse] at h
  split at h
  · cases h
  · dsimp only at h
    split at h
    · cases h
      exact List.forall_mem_nil _
    · cases h
      rw [List.forall_mem_singleton]
      refine (namesSource_plain_iff rfl ?_).mpr (namedAlike_resourcequotas _ _)
      intro hmissing
      cases hmissing

theorem namesSource_limit (limit : Obj) (i : Nat) :
    rb.NamesSource (LimitRange.limitConstraint obj limit i) "limitranges" (getName obj) ↔ getNamespace obj = "" :=
  namesSource_resourceQuota_of_limitRange rfl rfl

theorem namesSource_webhook (webhook : Obj) (i : Nat) :
    rb.NamesSource (WebhookConfig.webhookConstraint obj webhook i) (AdapterCall.webhookConfig.resource obj)
      (getName obj) ↔ getName obj ≠ "" ∧ '-' ∉ (safeStringFromMap webhook "name").toList := by
  have hresource : (WebhookConfig.webhookConstraint obj webhook i).source.resource =
      AdapterCall.webhookConfig.resource obj := by
    change (if WebhookConfig.isValidating obj then _ else _ : GVR).resource = if _ then _ else _
    split <;> rfl
  have hbranch : branch (WebhookConfig.webhookConstraint obj webhook i) = .webhook := by
    refine branch_of_webhook_resource rfl ?_
    rw [hresource, AdapterCall.resource]
    split <;> decide
  rw [namesSource_some (firstCommand_webhook rb hbranch), ← hresource,
    inspects_webhook_iff (resource_of_webhook hbranch)]
  exact configName_webhook_iff _ _

omit [Unicode] in
theorem expectedKind_details (spec : Option Obj) :
    safeStringFromMap (Generic.buildDetails spec) "expectedKind" = "" := by
  have hprobes : ((Generic.probes spec).map (fun p => (p.1, p.2.1))).lookup "expectedKind" = none := by
    rw [Generic.probes]
    split_ifs <;> rfl
  have hlookup : (Generic.buildDetails spec).lookup "expectedKind" = none := by
    rw [Generic.buildDetails, List.lookup_append, hprobes]
    split_ifs <;> rfl
  rw [safeStringFromMap, hlookup]

theorem namesSource_generic_iff (gvr : GVR) : rb.NamesSource (Generic.genericConstraint obj gvr) gvr.resource
    (getName obj) ↔ NamedAlike gvr.resource (getNamespace obj) (getName obj) :=
  namesSource_plain_iff rfl (fun _ => expectedKind_details _)

theorem namesSource_configured_iff (gvr : GVR) (cfg : Generic.ParseConfig) :
    rb.NamesSource (Generic.applyConfig obj cfg (Generic.genericConstraint obj gvr)) gvr.resource (getName obj) ↔
      NamedAlike gvr.resource (getNamespace obj) (getName obj) := by
  obtain ⟨paths, override⟩ := cfg
  cases paths with
  | none => exact namesSource_plain_iff rfl (fun _ => expectedKind_details _)
  | some paths => exact namesSource_plain_iff rfl (fun _ => expectedKind_details _)

end Objects

theorem forall_numbered_iff {α β γ : Type} {entries : List α} {read : α → Option β} {build : β → Nat → γ}
    {P : γ → Prop} {Q : β → Prop} (h : ∀ e i, P (build e i) ↔ Q e) :
    (∀ c ∈ entries.zipIdx.filterMap (fun e => (read e.1).map (fun entry => build entry e.2)), P c) ↔
      ∀ entry ∈ entries.filterMap read, Q entry := by
  simp only [List.mem_filterMap, Option.map_eq_some_iff, forall_exists_index, and_imp]
  constructor
  · intro hall entry e he hread
    rw [← List.zipIdx_map_fst 0 entries, List.mem_map] at he
    obtain ⟨⟨e, i⟩, he, rfl⟩ := he
    exact (h entry i).mp (hall _ (e, i) he entry hread rfl)
  · rintro hall c ⟨e, i⟩ he entry hread rfl
    exact (h entry i).mpr (hall entry e (List.fst_mem_of_mem_zipIdx he) hread)

section Calls
variable [Apimachinery] [Unicode]

section Entries
variable {rb : RemediationBuilder} {obj : Unstructured} {cs : List Constraint}

theorem namesSource_limitRange_iff (h : LimitRange.parse obj = .ok cs) :
    (∀ c ∈ cs, rb.NamesSource c "limitranges" (getName obj)) ↔ ∀ _limit ∈ limitsOf obj, getNamespace obj = "" := by
  rw [LimitRange.parse] at h
  split at h
  · cases h
  · rename_i spec hspec
    rw [limitsOf, hspec]
    dsimp only at h
    split at h
    · rename_i hempty
      cases h
      simp [List.length_eq_zero_iff.mp hempty]
    · cases h
      exact forall_numbered_iff namesSource_limit

theorem namesSource_webhookConfig_iff (h : WebhookConfig.parse obj = .ok cs) :
    (∀ c ∈ cs, rb.NamesSource c (AdapterCall.webhookConfig.resource obj) (getName obj)) ↔
      ∀ webhook ∈ webhooksOf obj, getName obj ≠ "" ∧ '-' ∉ (safeStringFromMap webhook "name").toList := by
  rw [WebhookConfig.parse] at h
  rw [webhooksOf]
  split at h
  · rename_i hempty
    cases h
    simp [List.length_eq_zero_iff.mp hempty]
  · cases h
    exact forall_numbered_iff namesSource_webhook

end Entries

/-- What the builder has a reader look at first is the object itself, for all of its
constraints, exactly if its names come through. -/
theorem inspects_source_iff (rb : RemediationBuilder) (call : AdapterCall) (obj : Unstructured) (cs : List Constraint)
    (hparse : call.parse obj = .ok cs) :
    (∀ c ∈ cs, rb.NamesSource c (call.resource obj) (getName obj)) ↔ call.NamesKept obj := by
  cases call with
  | networkPolicy => exact iff_of_true (namesSource_networkPolicy hparse) trivial
  | resourceQuota => exact iff_of_true (namesSource_resourceQuota hparse) trivial
  | limitRange =>
    rw [AdapterCall.resource, namesSource_limitRange_iff hparse, AdapterCall.NamesKept]
    cases limitsOf obj with
    | nil => simp
    | cons limit limits => simpa using fun hns _ _ => hns
  | webhookConfig => exact namesSource_webhookConfig_iff hparse
  | generic gvr =>
    cases hparse
    rw [List.forall_mem_singleton]
    exact namesSource_generic_iff gvr
  | configured gvr cfg =>
    cases hparse
    rw [List.forall_mem_singleton]
    exact namesSource_configured_iff gvr cfg
  | guessed =>
    cases hparse
    rw [List.forall_mem_singleton]
    exact namesSource_generic_iff _

end Calls

section Samples

attribute [local instance] Apimachinery.model asciiTables

def policyConfig (webhook : String) : Unstructured where
  object := [
    ("kind", .str "ValidatingWebhookConfiguration"),
    ("metadata", .map [("name", .str "image-policy")]),
    ("webhooks", .slice [.map [("name", .str webhook)]])]

theorem image_policy_inspected :
    AdapterCall.webhookConfig.parse (policyConfig "images.example.com") =
        .ok [WebhookConfig.webhookConstraint (policyConfig "images.example.com")
          [("name", .str "images.example.com")] 0] ∧
      ∀ c ∈ [WebhookConfig.webhookConstraint (policyConfig "images.example.com")
          [("name", .str "images.example.com")] 0],
        (RemediationBuilder.new "").NamesSource c "validatingwebhookconfigurations" "image-policy" := by
  have hkept := inspects_source_iff (RemediationBuilder.new "") .webhookConfig (policyConfig "images.example.com") _ rfl
  refine ⟨rfl, hkept.mpr ?_⟩
  intro webhook hwebhook
  cases List.mem_singleton.mp hwebhook
  exact ⟨by decide, by decide⟩

theorem image_policy_cut :
    AdapterCall.webhookConfig.parse (policyConfig "check-images.example.com") =
        .ok [WebhookConfig.webhookConstraint (policyConfig "check-images.example.com")
          [("name", .str "check-images.example.com")] 0] ∧
      ¬ (RemediationBuilder.new "").NamesSource
          (WebhookConfig.webhookConstraint (policyConfig "check-images.example.com")
            [("name", .str "check-images.example.com")] 0)
          "validatingwebhookconfigurations" "image-policy" := by
  refine ⟨rfl, fun h => ?_⟩
  obtain ⟨-, hdash⟩ := (namesSource_webhook [("name", .str "check-images.example.com")] 0).mp h
  exact hdash (by decide)

end Samples

end Nightjar.Notifier
