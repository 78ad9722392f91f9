import Nightjar.Util

namespace Nightjar.Notifier

open Lib.Strings

structure RemediationInfo where
  summary : String
  steps : List RemediationStep := []
deriving DecidableEq, Repr

structure RemediationBuilder where
  defaultContact : String
deriving DecidableEq, Repr

def detailString (c : Constraint) (key : String) : String := Util.safeStringFromMap c.details key

def isNetworkPolicySource (c : Constraint) : Bool :=
  decide (c.source.resource = "networkpolicies") || decide (c.source.resource = "ciliumnetworkpolicies") ||
    decide (c.source.resource = "ciliumclusterwidenetworkpolicies")

def isResourceQuotaSource (c : Constraint) : Bool :=
  decide (c.source.resource = "resourcequotas") || decide (c.source.resource = "limitranges")

def isWebhookSource (c : Constraint) : Bool :=
  decide (c.source.resource = "validatingwebhookconfigurations") ||
    decide (c.source.resource = "mutatingwebhookconfigurations")

def configName (name : String) : String :=
  let config := ((name.toList.reverse.dropWhile (· ≠ '-')).drop 1).reverse
  if config = [] then name else String.ofList config

/-- `getMissingResourceTemplate`. -/
def missingResourceTemplate (kind : String) : String :=
  match kind with
  | "ServiceMonitor" => "\n".intercalate [
      "apiVersion: monitoring.coreos.com/v1",
      "kind: ServiceMonitor",
      "metadata:",
      "  name: {workload_name}",
      "  namespace: {namespace}",
      "spec:",
      "  selector:",
      "    matchLabels:",
      "      app: {workload_name}",
      "  endpoints:",
      "  - port: metrics",
      "    interval: 30s"]
  | "VirtualService" => "\n".intercalate [
      "apiVersion: networking.istio.io/v1beta1",
      "kind: VirtualService",
      "metadata:",
      "  name: {workload_name}",
      "  namespace: {namespace}",
      "spec:",
      "  hosts:",
      "  - {workload_name}",
      "  http:",
      "  - route:",
      "    - destination:",
      "        host: {workload_name}",
      "        port:",
      "          number: 80"]
  | "DestinationRule" => "\n".intercalate [
      "apiVersion: networking.istio.io/v1beta1",
      "kind: DestinationRule",
      "metadata:",
      "  name: {workload_name}",
      "  namespace: {namespace}",
      "spec:",
      "  host: {workload_name}",
      "  trafficPolicy:",
      "    tls:",
      "      mode: ISTIO_MUTUAL"]
  | "PodDisruptionBudget" => "\n".intercalate [
      "apiVersion: policy/v1",
      "kind: PodDisruptionBudget",
      "metadata:",
      "  name: {workload_name}",
      "  namespace: {namespace}",
      "spec:",
      "  minAvailable: 1",
      "  selector:",
      "    matchLabels:",
      "      app: {workload_name}"]
  | "HorizontalPodAutoscaler" => "\n".intercalate [
      "apiVersion: autoscaling/v2",
      "kind: HorizontalPodAutoscaler",
      "metadata:",
      "  name: {workload_name}",
      "  namespace: {namespace}",
      "spec:",
      "  scaleTargetRef:",
      "    apiVersion: apps/v1",
      "    kind: Deployment",
      "    name: {workload_name}",
      "  minReplicas: 2",
      "  maxReplicas: 10",
      "  metrics:",
      "  - type: Resource",
      "    resource:",
      "      name: cpu",
      "      target:",
      "        type: Utilization",
      "        averageUtilization: 80"]
  | _ => ""

/-- The cases `Build` distinguishes, in its order. -/
inductive Branch where
  | own
  | networkPolicy
  | resourceQuota
  | webhook
  | missingResource
  | generic
deriving DecidableEq, Repr

def branch (c : Constraint) : Branch :=
  if c.remediation.length > 0 then .own
  else if isNetworkPolicySource c then .networkPolicy
  else if isResourceQuotaSource c then .resourceQuota
  else if isWebhookSource c then .webhook
  else if c.constraintType = .missing then .missingResource
  else .generic

namespace RemediationBuilder

def new (defaultContact : String) : RemediationBuilder :=
  ⟨if defaultContact = "" then "your platform team" else defaultContact⟩

variable (rb : RemediationBuilder) (c : Constraint)

def generateSummary : String :=
  if c.remediationHint ≠ "" then c.remediationHint
  else
    match c.constraintType with
    | .networkIngress => "Review network policy or request ingress exception"
    | .networkEgress => "Review network policy or request egress exception"
    | .admission => "Review admission policy requirements or request exception"
    | .resourceLimit => "Optimize resource usage or request quota increase"
    | .meshPolicy => "Review service mesh policy configuration"
    | .missing => "Create the missing companion resource"
    | _ => "Contact " ++ rb.defaultContact ++ " for assistance"

def resolveContact : String :=
  if detailString c "contact" ≠ "" then detailString c "contact"
  else if contains c.remediationHint "@" || contains c.remediationHint "#" then c.remediationHint
  else rb.defaultContact

def convertSteps : RemediationInfo where
  summary := if c.remediationHint = "" then rb.generateSummary c else c.remediationHint
  steps := c.remediation

def buildNetworkPolicyRemediation : RemediationInfo where
  summary := rb.generateSummary c
  steps :=
    (if c.ns ≠ "" then
      [{ type := "kubectl"
         description := "Inspect the NetworkPolicy to understand the allowed traffic"
         command := "kubectl get networkpolicy " ++ c.name ++ " -n " ++ c.ns ++ " -o yaml"
         requiresPrivilege := "developer" },
       { type := "kubectl"
         description := "Check for related events in the namespace"
         command := "kubectl get events -n " ++ c.ns ++ " --field-selector reason=NetworkPolicyDrop"
         requiresPrivilege := "developer" }]
    else []) ++
    [{ type := "manual"
       description := "Request a network policy exception or modification"
       contact := rb.resolveContact c
       requiresPrivilege := "namespace-admin" },
     { type := "link"
       description := "Review network policy documentation"
       url := "https://kubernetes.io/docs/concepts/services-networking/network-policies/"
       requiresPrivilege := "developer" }]

def buildResourceQuotaRemediation : RemediationInfo where
  summary := rb.generateSummary c
  steps :=
    (if c.ns ≠ "" then
      [{ type := "kubectl"
         description := "View current quota usage"
         command := "kubectl describe resourcequota " ++ c.name ++ " -n " ++ c.ns
         requiresPrivilege := "developer" },
       { type := "kubectl"
         description := "List pods with resource requests to identify optimization opportunities"
         command := "kubectl get pods -n " ++ c.ns ++ " -o custom-columns='NAME:.metadata.name," ++
           "CPU_REQ:.spec.containers[*].resources.requests.cpu,MEM_REQ:.spec.containers[*].resources.requests.memory'"
         requiresPrivilege := "developer" }]
    else []) ++
    [{ type := "manual"
       description := "Request a quota increase from your platform team"
       contact := rb.resolveContact c
       requiresPrivilege := "namespace-admin" },
     { type := "link"
       description := "Review resource management best practices"
       url := "https://kubernetes.io/docs/concepts/configuration/manage-resources-containers/"
       requiresPrivilege := "developer" }]

def buildWebhookRemediation : RemediationInfo where
  summary := rb.generateSummary c
  steps :=
    let webhookKind :=
      if c.source.resource = "mutatingwebhookconfigurations" then "mutatingwebhookconfigurations"
      else "validatingwebhookconfigurations"
    [{ type := "kubectl"
       description := "Inspect the webhook configuration"
       command := "kubectl get " ++ webhookKind ++ " " ++ configName c.name ++ " -o yaml"
       requiresPrivilege := "cluster-admin" },
     { type := "manual"
       description := "Check the webhook service logs for rejection details"
       contact := rb.resolveContact c
       requiresPrivilege := "cluster-admin" },
     { type := "kubectl"
       description := "Test resource creation with dry-run to see webhook response"
       command := "kubectl apply --dry-run=server -f <your-manifest.yaml>"
       requiresPrivilege := "developer" },
     { type := "link"
       description := "Review admission webhook documentation"
       url := "https://kubernetes.io/docs/reference/access-authn-authz/extensible-admission-controllers/"
       requiresPrivilege := "developer" }]

/-- The template depends on the expected kind only; the expected version is
read from the details and not used. -/
def buildMissingResourceRemediation [Unicode] : RemediationInfo where
  summary := rb.generateSummary c
  steps :=
    let expectedKind := detailString c "expectedKind"
    (if expectedKind ≠ "" ∧ c.ns ≠ "" then
      [{ type := "kubectl"
         description := "Check if " ++ expectedKind ++ " resources exist in your namespace"
         command := "kubectl get " ++ toLower expectedKind ++ " -n " ++ c.ns
         requiresPrivilege := "developer" }]
    else []) ++
    (if missingResourceTemplate expectedKind ≠ "" then
      [{ type := "yaml_patch"
         description := "Create the missing " ++ expectedKind ++ " resource"
         template := missingResourceTemplate expectedKind
         requiresPrivilege := "developer" }]
    else []) ++
    [{ type := "manual"
       description := "Contact your platform team for guidance on creating this resource"
       contact := rb.resolveContact c
       requiresPrivilege := "developer" }]

def buildGenericRemediation : RemediationInfo where
  summary := rb.generateSummary c
  steps :=
    [if c.ns ≠ "" then
      { type := "kubectl"
        description := "Inspect the constraint source object"
        command := "kubectl get " ++ c.source.resource ++ " " ++ c.name ++ " -n " ++ c.ns ++ " -o yaml"
        requiresPrivilege := "developer" }
     else
      { type := "kubectl"
        description := "Inspect the constraint source object"
        command := "kubectl get " ++ c.source.resource ++ " " ++ c.name ++ " -o yaml"
        requiresPrivilege := "cluster-admin" },
     { type := "manual"
       description := "Contact your platform team for assistance with this constraint"
       contact := rb.resolveContact c
       requiresPrivilege := "developer" }]

def build [Unicode] : RemediationInfo :=
  match branch c with
  | .own => rb.convertSteps c
  | .networkPolicy => rb.buildNetworkPolicyRemediation c
  | .resourceQuota => rb.buildResourceQuotaRemediation c
  | .webhook => rb.buildWebhookRemediation c
  | .missingResource => rb.buildMissingResourceRemediation c
  | .generic => rb.buildGenericRemediation c

end RemediationBuilder

end Nightjar.Notifier
