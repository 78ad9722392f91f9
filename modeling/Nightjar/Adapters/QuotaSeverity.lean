import Nightjar.Adapters.ResourceQuota

namespace Nightjar.Adapters.ResourceQuota

open Lib Lib.Strings Apimachinery Util

theorem severityOf_eq_critical {percent : Rat} : severityOf percent = .critical ↔ 90 ≤ percent := by
  unfold severityOf
  split_ifs <;> simp_all

theorem severityOf_eq_info {percent : Rat} (h : percent < 75) : severityOf percent = .info := by
  rw [severityOf, if_neg (by linarith), if_neg (by linarith)]

theorem maxPercent_eq (infos : List (String × Obj × Option Rat)) :
    maxPercent infos = infos.foldl (fun acc info => info.2.2.elim acc (max acc)) 0 := by
  unfold maxPercent
  congr 1
  funext acc info
  cases info.2.2 with
  | none => rfl
  | some percent => exact (max_def_lt acc percent).symm

theorem le_maxPercent_iff {bound : Rat} (hbound : 0 < bound) (infos : List (String × Obj × Option Rat)) :
    bound ≤ maxPercent infos ↔ ∃ info ∈ infos, ∃ percent, info.2.2 = some percent ∧ bound ≤ percent := by
  have key : ∀ acc : Rat, bound ≤ infos.foldl (fun acc info => info.2.2.elim acc (max acc)) acc ↔
      bound ≤ acc ∨ ∃ info ∈ infos, ∃ percent, info.2.2 = some percent ∧ bound ≤ percent := by
    induction infos with
    | nil => simp
    | cons info rest ih =>
        intro acc
        rw [List.foldl_cons, ih]
        cases hp : info.2.2 with
        | none => simp [hp]
        | some percent => simp [hp, or_assoc]
  rw [maxPercent_eq, key]
  exact or_iff_right (not_le.mpr hbound)

/-- The quantity in the units that are compared: millicores of CPU, and whole
counts or bytes of anything else. -/
def units (name : String) (quantity : Rat) : Rat :=
  if isCPUResource name then quantity * 1000 else quantity

/-- A whole number of units that an int64 holds. -/
def Whole (name : String) (quantity : Rat) : Prop :=
  ∃ n : Int, n.natAbs < 2 ^ 63 ∧ units name quantity = n

theorem units_pos {name : String} {quantity : Rat} (h : 0 < quantity) : 0 < units name quantity := by
  unfold units
  split_ifs <;> linarith

theorem units_strictMono (name : String) : StrictMono (units name) := by
  intro p q h
  unfold units
  split_ifs <;> linarith

theorem units_mul (name : String) (c q : Rat) : units name (c * q) = c * units name q := by
  unfold units
  split_ifs <;> ring

theorem quotient_le {u h : Int} (hpos : 0 < h) (hbound : h ≤ 2 ^ 52 + 2) (hlt : 4 * u < 3 * h) :
    (u / h : Rat) ≤ 3 / 4 - 1 / (4 * (2 ^ 52 - 1)) := by
  have hgap : h ≤ (2 ^ 52 - 1) * (3 * h - 4 * u) := by
    by_cases hsmall : h ≤ 2 ^ 52 - 1
    · omega
    · have htwo : 2 ≤ 3 * h - 4 * u := by omega
      omega
  have hgapq : (h : Rat) ≤ (2 ^ 52 - 1) * (3 * h - 4 * u) := by exact_mod_cast hgap
  have hposq : (0 : Rat) < h := by exact_mod_cast hpos
  rw [div_le_iff₀ hposq]
  norm_num at hgapq ⊢
  linarith

theorem percent_lt {u h : Int} (hpos : 0 < h) (hbound : h ≤ 2 ^ 52 + 2) (hlt : 4 * u < 3 * h) :
    Float64.mul (Float64.div (Float64.ofInt u) (Float64.ofInt h)) 100 < 75 := by
  have hexact : ∀ n : Int, 0 ≤ n → n ≤ 2 ^ 52 + 2 → Float64.ofInt n = n := by
    intro n hn hle
    lift n to Nat using hn
    exact Float64.round_natCast (by omega)
  rw [hexact h hpos.le hbound]
  have hposq : (0 : Rat) < h := by exact_mod_cast hpos
  rcases le_or_gt u 0 with hu | hu
  · have hof : Float64.ofInt u ≤ 0 := Float64.round_nonpos (by exact_mod_cast hu)
    have hdiv : Float64.div (Float64.ofInt u) h ≤ 0 :=
      Float64.round_nonpos (div_nonpos_of_nonpos_of_nonneg hof hposq.le)
    have hmul : Float64.mul (Float64.div (Float64.ofInt u) h) 100 ≤ 0 :=
      Float64.round_nonpos (by linarith)
    linarith
  · rw [hexact u hu.le (by omega)]
    have huq : (0 : Rat) < u := by exact_mod_cast hu
    have hdiv : Float64.div u h ≤ Float64.round (3 / 4 - 1 / (4 * (2 ^ 52 - 1))) :=
      Float64.round_mono (div_pos huq hposq).le (quotient_le hpos hbound hlt)
    have hnonneg : 0 ≤ Float64.div u h := Float64.round_nonneg (div_pos huq hposq).le
    calc Float64.mul (Float64.div u h) 100
        ≤ Float64.round (Float64.round (3 / 4 - 1 / (4 * (2 ^ 52 - 1))) * 100) :=
          Float64.round_mono (by linarith) (by linarith)
      _ < 75 := by decide +kernel

section Parse
variable [Apimachinery]

theorem percentOf_eq {name : String} {used hard : Rat} {u h : Int} (hu : u.natAbs < 2 ^ 63)
    (hused : units name used = u) (hh : h.natAbs < 2 ^ 63) (hhard : units name hard = h) :
    percentOf name used hard = Float64.mul (Float64.div (Float64.ofInt u) (Float64.ofInt h)) 100 := by
  unfold units at hused hhard
  unfold percentOf
  split_ifs at hused hhard ⊢ with hcpu hmemory
  · obtain rfl : used = u / 1000 := by linarith
    obtain rfl : hard = h / 1000 := by linarith
    rw [quantityMilliValue_milli u hu, quantityMilliValue_milli h hh]
  all_goals rw [hused, hhard, quantityValue_int u hu, quantityValue_int h hh]

theorem percentOf_of_exhausted {name : String} {used hard : Rat} (hused : Whole name used) (hhard : Whole name hard)
    (hpos : 0 < hard) (hle : hard ≤ used) : 100 ≤ percentOf name used hard := by
  obtain ⟨u, hu, hequ⟩ := hused
  obtain ⟨h, hh, heqh⟩ := hhard
  rw [percentOf_eq hu hequ hh heqh]
  have hposh : (0 : Rat) < h := heqh ▸ units_pos hpos
  have hleu : (h : Rat) ≤ u := by
    rw [← heqh, ← hequ]
    exact (units_strictMono name).monotone hle
  have hround : Float64.ofInt h ≤ Float64.ofInt u := Float64.round_mono hposh.le hleu
  have hposr : 0 < Float64.ofInt h := (half_pos hposh).trans_le (Float64.half_le_round hposh.le)
  have hdiv : 1 ≤ Float64.div (Float64.ofInt u) (Float64.ofInt h) := by
    have hone : Float64.round 1 = 1 := by decide +kernel
    rw [← hone]
    exact Float64.round_mono zero_le_one ((one_le_div hposr).mpr hround)
  calc (100 : Rat) = Float64.round 100 := by decide +kernel
    _ ≤ Float64.mul (Float64.div (Float64.ofInt u) (Float64.ofInt h)) 100 :=
        Float64.round_mono (by norm_num) (by linarith)

theorem percentOf_of_below {name : String} {used hard : Rat} (hused : Whole name used) (hhard : Whole name hard)
    (hpos : 0 < hard) (hbound : units name hard ≤ 2 ^ 52 + 2) (hlt : used < 3 / 4 * hard) :
    percentOf name used hard < 75 := by
  obtain ⟨u, hu, hequ⟩ := hused
  obtain ⟨h, hh, heqh⟩ := hhard
  rw [percentOf_eq hu hequ hh heqh]
  have hposh : 0 < h := by exact_mod_cast heqh ▸ units_pos hpos
  have hboundh : h ≤ 2 ^ 52 + 2 := by
    rw [heqh] at hbound
    exact_mod_cast hbound
  have hltu : 4 * u < 3 * h := by
    have hunits := units_strictMono name hlt
    rw [units_mul, hequ, heqh] at hunits
    have : (4 * u : Rat) < 3 * h := by linarith
    exact_mod_cast this
  exact percent_lt hposh hboundh hltu

def hard (obj : Unstructured) : Obj := (safeNestedMap (safeNestedMap obj.object ["spec"]) ["hard"]).getD []

def used (obj : Unstructured) : Option Obj := safeNestedMap (safeNestedMap obj.object ["status"]) ["used"]

/-- The resource has a limit and a usage that are both quantities. -/
def Measured (obj : Unstructured) (name : String) (usedQty hardQty : Rat) : Prop :=
  (∃ text, (hard obj).lookup name = some (.str text) ∧ parseQuantity text = .ok hardQty) ∧
    ∃ text, (used obj).bind (List.lookup name) = some (.str text) ∧ parseQuantity text = .ok usedQty

theorem parse_of_hard {obj : Unstructured} (h : hard obj ≠ []) : ∃ c, parse obj = .ok [c] ∧
    c.severity = severityOf (maxPercent (resourceInfos (hard obj) (used obj))) := by
  unfold parse
  cases hspec : safeNestedMap obj.object ["spec"] with
  | none =>
      rw [hard, hspec] at h
      exact absurd rfl h
  | some spec =>
      have hhard : (safeNestedMap spec ["hard"]).getD [] = hard obj := by rw [hard, hspec]
      dsimp only
      rw [hhard, if_neg (by simpa using h)]
      exact ⟨_, rfl, rfl⟩

theorem parse_of_hard_nil {obj : Unstructured} (h : hard obj = []) {cs : List Constraint} (hcs : parse obj = .ok cs) :
    cs = [] := by
  unfold parse at hcs
  split at hcs
  · cases hcs
  · rename_i spec hspec
    rw [hard, hspec] at h
    dsimp only at hcs
    rw [h] at hcs
    cases hcs
    rfl

theorem resourceInfo_percent {used : Option Obj} {name hardText : String} {hardQty percent : Rat} :
    (resourceInfo used name hardText hardQty).2 = some percent ↔ hardQty ≠ 0 ∧
      ∃ text usedQty, used.bind (List.lookup name) = some (.str text) ∧ parseQuantity text = .ok usedQty ∧
        percentOf name usedQty hardQty = percent := by
  unfold resourceInfo
  split
  · rename_i usedText hused
    split
    · rename_i err herr
      simp [hused, herr]
    · rename_i usedQty hqty
      split_ifs with hzero
      · simp [hzero]
      · simp [hused, hqty, hzero]
  · rename_i hnone
    constructor
    · intro h
      cases h
    · rintro ⟨-, text, -, hl, -⟩
      exact absurd hl (hnone text)

theorem le_maxPercent_resourceInfos {obj : Unstructured} {bound : Rat} (hbound : 0 < bound) :
    bound ≤ maxPercent (resourceInfos (hard obj) (used obj)) ↔
      ∃ name usedQty hardQty, Measured obj name usedQty hardQty ∧ hardQty ≠ 0 ∧
        bound ≤ percentOf name usedQty hardQty := by
  rw [le_maxPercent_iff hbound]
  constructor
  · rintro ⟨⟨name, info⟩, hmem, percent, hpercent, hle⟩
    obtain ⟨hardText, hardQty, hl, hq, rfl⟩ := mem_resourceInfos.mp hmem
    obtain ⟨hne, usedText, usedQty, hlu, hqu, rfl⟩ := resourceInfo_percent.mp hpercent
    exact ⟨name, usedQty, hardQty, ⟨⟨hardText, hl, hq⟩, usedText, hlu, hqu⟩, hne, hle⟩
  · rintro ⟨name, usedQty, hardQty, ⟨⟨hardText, hl, hq⟩, usedText, hlu, hqu⟩, hne, hle⟩
    refine ⟨_, mem_resourceInfos.mpr ⟨hardText, hardQty, hl, hq, rfl⟩, percentOf name usedQty hardQty, ?_, hle⟩
    exact resourceInfo_percent.mpr ⟨hne, usedText, usedQty, hlu, hqu, rfl⟩

/-- Every quantity that is compared is a whole number of units. -/
def AllWhole (obj : Unstructured) : Prop :=
  ∀ name usedQty hardQty, Measured obj name usedQty hardQty → Whole name usedQty ∧ Whole name hardQty

theorem hard_ne_nil_of_measured {obj : Unstructured} {name : String} {usedQty hardQty : Rat}
    (hm : Measured obj name usedQty hardQty) : hard obj ≠ [] := by
  obtain ⟨⟨text, hl, -⟩, -⟩ := hm
  intro hnil
  rw [hnil] at hl
  cases hl

theorem critical_of_exhausted {obj : Unstructured} (hwhole : AllWhole obj) {name : String} {usedQty hardQty : Rat}
    (hm : Measured obj name usedQty hardQty) (hpos : 0 < hardQty) (hle : hardQty ≤ usedQty) :
    severityOf (maxPercent (resourceInfos (hard obj) (used obj))) = .critical := by
  obtain ⟨hused, hhard⟩ := hwhole name usedQty hardQty hm
  have hfull := percentOf_of_exhausted hused hhard hpos hle
  rw [severityOf_eq_critical, le_maxPercent_resourceInfos (by norm_num)]
  exact ⟨name, usedQty, hardQty, hm, hpos.ne', by linarith⟩

theorem info_of_below {obj : Unstructured} (hwhole : AllWhole obj)
    (hbelow : ∀ name usedQty hardQty, Measured obj name usedQty hardQty →
      0 ≤ hardQty ∧ units name hardQty ≤ 2 ^ 52 + 2 ∧ usedQty < 3 / 4 * hardQty) :
    severityOf (maxPercent (resourceInfos (hard obj) (used obj))) = .info := by
  apply severityOf_eq_info
  by_contra hge
  obtain ⟨name, usedQty, hardQty, hm, hne, hle⟩ := (le_maxPercent_resourceInfos (by norm_num)).mp (not_lt.mp hge)
  obtain ⟨hused, hhard⟩ := hwhole name usedQty hardQty hm
  obtain ⟨hnonneg, hbound, hlt⟩ := hbelow name usedQty hardQty hm
  have h := percentOf_of_below hused hhard (lt_of_le_of_ne hnonneg hne.symm) hbound hlt
  linarith

/-- A quota of which a positive limit is used up is critical, and one that is used less
than three quarters is only information. -/
theorem quota_severity {obj : Unstructured} (hwhole : AllWhole obj) :
    ((∃ name usedQty hardQty, Measured obj name usedQty hardQty ∧ 0 < hardQty ∧ hardQty ≤ usedQty) →
      ∃ c, parse obj = .ok [c] ∧ c.severity = .critical) ∧
    ((∀ name usedQty hardQty, Measured obj name usedQty hardQty →
        0 ≤ hardQty ∧ units name hardQty ≤ 2 ^ 52 + 2 ∧ usedQty < 3 / 4 * hardQty) →
      ∀ cs, parse obj = .ok cs → ∀ c ∈ cs, c.severity = .info) := by
  constructor
  · rintro ⟨name, usedQty, hardQty, hm, hpos, hle⟩
    obtain ⟨c, hparse, hsev⟩ := parse_of_hard (hard_ne_nil_of_measured hm)
    exact ⟨c, hparse, hsev.trans (critical_of_exhausted hwhole hm hpos hle)⟩
  · intro hbelow cs hcs c hc
    by_cases hhard : hard obj = []
    · rw [parse_of_hard_nil hhard hcs] at hc
      cases hc
    · obtain ⟨d, hparse, hsev⟩ := parse_of_hard hhard
      obtain rfl : cs = [d] := Except.ok.inj (hcs.symm.trans hparse)
      rw [List.mem_singleton.mp hc, hsev]
      exact info_of_below hwhole hbelow

end Parse

section Samples
attribute [local instance] Apimachinery.model

def quota (name usedText hardText : String) : Unstructured :=
  ⟨[("metadata", .map [("name", .str "compute-quota"), ("namespace", .str "team")]),
    ("spec", .map [("hard", .map [(name, .str hardText)])]),
    ("status", .map [("used", .map [(name, .str usedText)])])]⟩

theorem measured_quota {resource usedText hardText name : String} {usedQty hardQty : Rat} :
    Measured (quota resource usedText hardText) name usedQty hardQty ↔
      name = resource ∧ parseQuantity usedText = .ok usedQty ∧ parseQuantity hardText = .ok hardQty := by
  have hhard : hard (quota resource usedText hardText) = [(resource, .str hardText)] := rfl
  have hused : used (quota resource usedText hardText) = some [(resource, .str usedText)] := rfl
  rw [Measured, hhard, hused, Option.bind_some]
  by_cases hname : name = resource
  · subst hname
    simp [and_comm]
  · have hbeq : (name == resource) = false := beq_false_of_ne hname
    simp [List.lookup_cons, hbeq, hname]

theorem quota_thresholds_missed :
    (Measured (quota "pods" "5" "0") "pods" 5 0 ∧
      (parse (quota "pods" "5" "0")).toOption.map (List.map Constraint.severity) = some [.info]) ∧
    Measured (quota "requests.storage" "3377699720527874" "4503599627370499") "requests.storage"
      3377699720527874 4503599627370499 ∧
    (3377699720527874 : Rat) < 3 / 4 * 4503599627370499 ∧
    (parse (quota "requests.storage" "3377699720527874" "4503599627370499")).toOption.map
      (List.map Constraint.severity) = some [.warning] := by
  refine ⟨⟨measured_quota.mpr ⟨rfl, ?_, ?_⟩, ?_⟩, measured_quota.mpr ⟨rfl, ?_, ?_⟩, ?_, ?_⟩
  all_goals decide +kernel

theorem units_pods (quantity : Rat) : units "pods" quantity = quantity := if_neg (by decide +kernel)

theorem whole_pods {n : Nat} (h : n < 2 ^ 63) : Whole "pods" n :=
  ⟨n, by simpa using h, by rw [units_pods, Int.cast_natCast]⟩

theorem whole_podsQuota {usedText hardText : String} {u h : Nat} (hu : parseQuantity usedText = .ok u)
    (hh : parseQuantity hardText = .ok h) (hltu : u < 2 ^ 63) (hlth : h < 2 ^ 63) :
    AllWhole (quota "pods" usedText hardText) := by
  intro name usedQty hardQty hm
  obtain ⟨rfl, hused, hhard⟩ := measured_quota.mp hm
  obtain rfl := Except.ok.inj (hused.symm.trans hu)
  obtain rfl := Except.ok.inj (hhard.symm.trans hh)
  exact ⟨whole_pods hltu, whole_pods hlth⟩

theorem quota_severity_pods :
    (∃ c, parse (quota "pods" "10" "10") = .ok [c] ∧ c.severity = .critical) ∧
      ∀ cs, parse (quota "pods" "7" "10") = .ok cs → ∀ c ∈ cs, c.severity = .info := by
  have hseven : parseQuantity "7" = .ok ((7 : Nat) : Rat) := by decide +kernel
  have hten : parseQuantity "10" = .ok ((10 : Nat) : Rat) := by decide +kernel
  constructor
  · refine (quota_severity (whole_podsQuota hten hten (by decide) (by decide))).1 ?_
    exact ⟨"pods", 10, 10, measured_quota.mpr ⟨rfl, hten, hten⟩, by norm_num, le_rfl⟩
  · refine (quota_severity (whole_podsQuota hseven hten (by decide) (by decide))).2 ?_
    intro name usedQty hardQty hm
    obtain ⟨rfl, hused, hhard⟩ := measured_quota.mp hm
    obtain rfl := Except.ok.inj (hused.symm.trans hseven)
    obtain rfl := Except.ok.inj (hhard.symm.trans hten)
    refine ⟨by norm_num, ?_, by norm_num⟩
    rw [units_pods]
    norm_num

end Samples

end Nightjar.Adapters.ResourceQuota
