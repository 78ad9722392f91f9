import Nightjar.Adapters.Registry
import Nightjar.Adapters.NetworkPolicy
import Nightjar.Adapters.Cilium
import Nightjar.Adapters.ResourceQuota
import Nightjar.Adapters.LimitRange
import Nightjar.Adapters.WebhookConfig
import Nightjar.Adapters.Gatekeeper
import Nightjar.Adapters.Kyverno
import Nightjar.Adapters.Generic

namespace Nightjar.Adapters

open Lib.Strings

inductive Builtin where
  | networkPolicy
  | cilium
  | resourceQuota
  | limitRange
  | webhookConfig
  | gatekeeper
  | kyverno
  | generic
deriving DecidableEq, Repr

/-- An adapter that files one constraint for each of some places of the object. -/
class SlottedAdapter (α : Type) [Apimachinery] extends Adapter α where
  slots : α → Unstructured → List Slot
  filedIn_parse : ∀ a obj, FiledIn obj (slots a obj) (parse a obj)

namespace Builtin

def name : Builtin → String
  | networkPolicy => NetworkPolicy.adapterName
  | cilium => Cilium.adapterName
  | resourceQuota => ResourceQuota.adapterName
  | limitRange => LimitRange.adapterName
  | webhookConfig => WebhookConfig.adapterName
  | gatekeeper => Gatekeeper.adapterName
  | kyverno => Kyverno.adapterName
  | generic => Generic.adapterName

def handles : Builtin → List GVR
  | networkPolicy => NetworkPolicy.handles
  | cilium => Cilium.handles
  | resourceQuota => ResourceQuota.handles
  | limitRange => LimitRange.handles
  | webhookConfig => WebhookConfig.handles
  | gatekeeper => Gatekeeper.handles
  | kyverno => Kyverno.handles
  | generic => Generic.handles

variable [Apimachinery] [Unicode]

def parse : Builtin → Unstructured → Except String (List Constraint)
  | networkPolicy => NetworkPolicy.parse
  | cilium => Cilium.parse
  | resourceQuota => ResourceQuota.parse
  | limitRange => LimitRange.parse
  | webhookConfig => WebhookConfig.parse
  | gatekeeper => Gatekeeper.parse
  | kyverno => Kyverno.parse
  | generic => Generic.parse

def slots : Builtin → Unstructured → List Slot
  | networkPolicy => NetworkPolicy.slots
  | cilium => Cilium.slots
  | resourceQuota => ResourceQuota.slots
  | limitRange => LimitRange.slots
  | webhookConfig => WebhookConfig.slots
  | gatekeeper => Gatekeeper.slots
  | kyverno => Kyverno.slots
  | generic => fun _ => [.whole]

theorem filedIn_parse (b : Builtin) (obj : Unstructured) : FiledIn obj (b.slots obj) (b.parse obj) := by
  cases b with
  | networkPolicy => exact NetworkPolicy.filedIn_parse obj
  | cilium => exact Cilium.filedIn_parse obj
  | resourceQuota => exact ResourceQuota.filedIn_parse obj
  | limitRange => exact LimitRange.filedIn_parse obj
  | webhookConfig => exact WebhookConfig.filedIn_parse obj
  | gatekeeper => exact Gatekeeper.filedIn_parse obj
  | kyverno => exact Kyverno.filedIn_parse obj
  | generic => exact Generic.filedIn_parseWithGVR obj _

instance : SlottedAdapter Builtin where
  name := name
  handles := handles
  parse := parse
  slots := slots
  filedIn_parse := filedIn_parse

/-- The object gives its constraints distinct UIDs. Only the two network
policy adapters derive several constraints from one place. -/
def Distinct (b : Builtin) (obj : Unstructured) : Prop :=
  match b with
  | networkPolicy => ¬ NetworkPolicy.BothDirections obj
  | cilium => ¬ Cilium.ManySections obj
  | _ => True

theorem slots_nodup_iff (b : Builtin) (obj : Unstructured) : (b.slots obj).Nodup ↔ b.Distinct obj := by
  cases b with
  | networkPolicy => exact NetworkPolicy.slots_nodup_iff obj
  | cilium => exact Cilium.slots_nodup_iff obj
  | resourceQuota => exact iff_of_true (ResourceQuota.slots_nodup obj) trivial
  | limitRange => exact iff_of_true (LimitRange.slots_nodup obj) trivial
  | webhookConfig => exact iff_of_true (WebhookConfig.slots_nodup obj) trivial
  | gatekeeper => exact iff_of_true (Gatekeeper.slots_nodup obj) trivial
  | kyverno => exact iff_of_true (Kyverno.slots_nodup obj) trivial
  | generic => exact iff_of_true (List.nodup_singleton _) trivial

omit [Apimachinery] [Unicode] in
def registered : List Builtin :=
  [networkPolicy, resourceQuota, limitRange, webhookConfig, gatekeeper, kyverno]

def controllerRegistry : Except RegisterError (Registry Builtin) := Registry.registerAll registered .new

end Builtin

end Nightjar.Adapters
