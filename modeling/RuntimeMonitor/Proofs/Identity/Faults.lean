import Mathlib
import RuntimeMonitor.Proofs.Identity.Discovery
import RuntimeMonitor.Proofs.Json.Exact

/-!
# Faults of attribute maps

Every attribute of a map can be at fault on its own: the start time when it is missing or no
integer of 64 bits, a text when it is neither a string nor `null`, the arguments when they cannot be
typed. The attributes are read one after the other, and the first fault is the one that is reported.
A map without faults gives the attributes that it supplies. Nothing else in a map has a say, and for
all but the start time `null` is as good as nothing.
-/

namespace RuntimeMonitor.Identity

theorem Arguments.mapM_of_ofItems_eq_error {items : List Json} {e : Error}
    (failed : Arguments.ofItems items = .error e) :
    items.mapM Arguments.objectText? = .error e := by
  unfold Arguments.ofItems at failed
  split at failed
  · cases failed
  split at failed
  · cases failed
  split at failed
  · cases failed
  split at failed
  · cases failed
  · cases outcome : items.mapM Arguments.objectText? with
    | error e' =>
      rw [outcome] at failed
      cases failed
      rfl
    | ok xs =>
      rw [outcome] at failed
      cases failed

theorem Arguments.isUnavailable_of_ofJson_eq_error {j : Json} {e : Error}
    (failed : Arguments.ofJson j = .error e) : e.isUnavailable = false := by
  cases j with
  | null => cases failed
  | array items =>
    obtain ⟨j, -, refused⟩ := exists_of_mapM_eq_error (Arguments.mapM_of_ofItems_eq_error failed)
    cases j <;> cases refused <;> rfl
  | _ =>
    cases failed
    rfl

namespace AttributeMap

/-- The attributes that may be left out, in the order in which they are read. -/
def optionalNames : List String :=
  ["ClassPath", "Name", "InputArguments", "LibraryPath", "VmVendor", "VmVersion"]

/-- All attributes in the order in which they are read. -/
def readingOrder : List String := "StartTime" :: optionalNames

/-- What may be wrong with an attribute, and the error that tells it. -/
inductive Fault (m : AttributeMap) : String → Error → Prop
  | missing : m "StartTime" = none → Fault m "StartTime" (.missing "StartTime")
  | notInteger {value : Json} : m "StartTime" = some value →
      (∀ n inRange, value = .number (.integer n inRange) → 2 ^ 63 ≤ n) →
      Fault m "StartTime" (.notInteger "StartTime" value)
  | notText {name : String} {value : Json} :
      name ∈ ["ClassPath", "Name", "LibraryPath", "VmVendor", "VmVersion"] →
      m name = some value → value ≠ .null → (∀ s, value ≠ .string s) →
      Fault m name (.notText name value)
  | untyped {value : Json} {e : Error} : m "InputArguments" = some value →
      Arguments.ofJson value = .error e → Fault m "InputArguments" e

/-- The fault of the first attribute that has one. -/
inductive FirstFault (m : AttributeMap) : List String → Error → Prop
  | here {name : String} {names : List String} {e : Error} :
      m.Fault name e → FirstFault m (name :: names) e
  | later {name : String} {names : List String} {e : Error} :
      (∀ e', ¬ m.Fault name e') → FirstFault m names e → FirstFault m (name :: names) e

/-- A map that has these attributes and nothing that is at fault. -/
structure Supplies (m : AttributeMap) (a : Attributes) : Prop where
  startTime : m "StartTime" = some (JsonForm.toJson a.startTime)
  classPath : HoldsText (m "ClassPath") a.classPath
  name : HoldsText (m "Name") a.name
  inputArguments : Arguments.ofJson ((m "InputArguments").getD .null) = .ok a.inputArguments
  libraryPath : HoldsText (m "LibraryPath") a.libraryPath
  vmVendor : HoldsText (m "VmVendor") a.vmVendor
  vmVersion : HoldsText (m "VmVersion") a.vmVersion

variable {m : AttributeMap} {a : Attributes} {e : Error}

theorem startTime_eq_ok_iff {t : Int64} :
    m.startTime = .ok t ↔ m "StartTime" = some (JsonForm.toJson t) := by
  unfold AttributeMap.startTime
  cases m "StartTime" with
  | none => simp
  | some value =>
    rw [Option.some.injEq, ← JsonForm.ofJson?_eq_some_iff]
    cases read : (JsonForm.ofJson? value : Option Int64) <;> simp [read]

theorem ofJson?_eq_none_iff {value : Json} :
    (JsonForm.ofJson? value : Option Int64) = none ↔
      ∀ n inRange, value = .number (.integer n inRange) → 2 ^ 63 ≤ n := by
  constructor
  · rintro refused n inRange rfl
    by_contra small
    have read : (Json.number (.integer n inRange)).bounded? (-2 ^ 63) (2 ^ 63) = some n :=
      Json.bounded?_integer inRange.1 (not_le.mp small)
    change (Json.bounded? (-2 ^ 63) (2 ^ 63) _).map Int64.ofInt = none at refused
    rw [read] at refused
    cases refused
  · intro great
    by_contra read
    obtain ⟨t, read⟩ := Option.ne_none_iff_exists'.mp read
    have high : 2 ^ 63 ≤ t.toInt := great t.toInt _ (JsonForm.ofJson?_eq_some_iff.mp read)
    exact absurd t.toInt_lt (not_lt.mpr high)

theorem startTime_eq_error_iff : m.startTime = .error e ↔ m.Fault "StartTime" e := by
  unfold AttributeMap.startTime
  constructor
  · intro failed
    split at failed
    · next absent =>
      cases failed
      exact .missing absent
    · next value found =>
      split at failed
      · cases failed
      · next refused =>
        cases failed
        exact .notInteger found (ofJson?_eq_none_iff.mp refused)
  · intro fault
    generalize named : "StartTime" = name at fault
    cases fault with
    | missing absent => simp only [absent]
    | notInteger found great => simp only [found, ofJson?_eq_none_iff.mpr great]
    | notText mem => exact absurd (named ▸ mem) (by decide)
    | untyped => exact absurd named (by decide)

theorem text_eq_ok_iff {name text : String} : m.text name = .ok text ↔ HoldsText (m name) text := by
  constructor
  · intro read
    unfold AttributeMap.text at read
    split at read
    · next absent =>
      cases read
      rw [absent]
      exact .missing
    · next null =>
      cases read
      rw [null]
      exact .null
    · next found =>
      cases read
      rw [found]
      exact .string _
    · cases read
  · exact text_eq_ok

theorem text_eq_error_iff {name : String}
    (mem : name ∈ ["ClassPath", "Name", "LibraryPath", "VmVendor", "VmVersion"]) :
    m.text name = .error e ↔ m.Fault name e := by
  unfold AttributeMap.text
  constructor
  · intro failed
    split at failed
    · cases failed
    · cases failed
    · cases failed
    · next value notNull notString found =>
      cases failed
      exact .notText mem found notNull notString
  · intro fault
    cases fault with
    | missing => exact absurd mem (by decide)
    | notInteger => exact absurd mem (by decide)
    | @notText _ value _ found notNull notString =>
      rw [found]
      cases value with
      | null => exact absurd rfl notNull
      | string s => exact absurd rfl (notString s)
      | _ => rfl
    | untyped => exact absurd mem (by decide)

theorem arguments_eq_error_iff :
    Arguments.ofJson ((m "InputArguments").getD .null) = .error e ↔
      m.Fault "InputArguments" e := by
  constructor
  · intro failed
    cases found : m "InputArguments" with
    | none =>
      rw [found] at failed
      cases failed
    | some value =>
      rw [found] at failed
      exact .untyped found failed
  · intro fault
    generalize named : "InputArguments" = name at fault
    cases fault with
    | missing => exact absurd named (by decide)
    | notInteger => exact absurd named (by decide)
    | notText mem => exact absurd (named ▸ mem) (by decide)
    | untyped found failed =>
      rw [found]
      exact failed

/-- A step that fails with the fault of one attribute goes before those of the other attributes. -/
theorem bind_eq_error_iff {α β : Type} {name : String} {names : List String}
    {step : Except Error α} {rest : α → Except Error β}
    (first : ∀ e, step = .error e ↔ m.Fault name e)
    (next : ∀ x, rest x = .error e ↔ m.FirstFault names e) :
    step >>= rest = .error e ↔ m.FirstFault (name :: names) e := by
  cases outcome : step with
  | error e' =>
    have fault : m.Fault name e' := (first e').mp outcome
    constructor
    · intro same
      cases same
      exact .here fault
    · intro fault'
      cases fault' with
      | here other => exact congrArg (· >>= rest) (outcome.symm.trans ((first e).mpr other))
      | later none => exact absurd fault (none e')
  | ok x =>
    have none : ∀ e', ¬ m.Fault name e' := by
      intro e' fault
      cases outcome.symm.trans ((first e').mpr fault)
    constructor
    · intro failed
      exact .later none ((next x).mp failed)
    · intro fault
      cases fault with
      | here other => exact absurd other (none e)
      | later _ rest => exact (next x).mpr rest

theorem toAttributes_eq_error_iff : m.toAttributes = .error e ↔ m.FirstFault readingOrder e := by
  refine bind_eq_error_iff (fun _ => startTime_eq_error_iff) fun _ => ?_
  refine bind_eq_error_iff (fun _ => text_eq_error_iff (by decide)) fun _ => ?_
  refine bind_eq_error_iff (fun _ => text_eq_error_iff (by decide)) fun _ => ?_
  refine bind_eq_error_iff (fun _ => arguments_eq_error_iff) fun _ => ?_
  refine bind_eq_error_iff (fun _ => text_eq_error_iff (by decide)) fun _ => ?_
  refine bind_eq_error_iff (fun _ => text_eq_error_iff (by decide)) fun _ => ?_
  refine bind_eq_error_iff (fun _ => text_eq_error_iff (by decide)) fun _ => ?_
  constructor
  · exact nofun
  · exact nofun

theorem toAttributes_eq_ok_iff : m.toAttributes = .ok a ↔ m.Supplies a := by
  constructor
  · intro read
    obtain ⟨startTime, start, read⟩ := bind_eq_ok_iff.mp read
    obtain ⟨classPath, path, read⟩ := bind_eq_ok_iff.mp read
    obtain ⟨name, named, read⟩ := bind_eq_ok_iff.mp read
    obtain ⟨arguments, typed, read⟩ := bind_eq_ok_iff.mp read
    obtain ⟨libraryPath, library, read⟩ := bind_eq_ok_iff.mp read
    obtain ⟨vmVendor, vendor, read⟩ := bind_eq_ok_iff.mp read
    obtain ⟨vmVersion, version, read⟩ := bind_eq_ok_iff.mp read
    cases read
    exact
      { startTime := startTime_eq_ok_iff.mp start
        classPath := text_eq_ok_iff.mp path
        name := text_eq_ok_iff.mp named
        inputArguments := typed
        libraryPath := text_eq_ok_iff.mp library
        vmVendor := text_eq_ok_iff.mp vendor
        vmVersion := text_eq_ok_iff.mp version }
  · intro h
    unfold AttributeMap.toAttributes
    rw [startTime_eq_ok_iff.mpr h.startTime, text_eq_ok h.classPath, text_eq_ok h.name,
      h.inputArguments, text_eq_ok h.libraryPath, text_eq_ok h.vmVendor, text_eq_ok h.vmVersion]
    rfl

/-! ## Which faults there are -/

theorem FirstFault.exists_fault {names : List String} (first : m.FirstFault names e) :
    ∃ name ∈ names, m.Fault name e := by
  induction first with
  | here fault => exact ⟨_, List.mem_cons_self, fault⟩
  | later _ _ ih =>
    obtain ⟨name, mem, fault⟩ := ih
    exact ⟨name, List.mem_cons_of_mem _ mem, fault⟩

theorem Fault.exists_firstFault {name : String} {names : List String} (fault : m.Fault name e)
    (mem : name ∈ names) : ∃ e', m.FirstFault names e' := by
  induction names with
  | nil => cases mem
  | cons head names ih =>
    by_cases first : ∃ e', m.Fault head e'
    · obtain ⟨e', fault'⟩ := first
      exact ⟨e', .here fault'⟩
    · rcases List.mem_cons.mp mem with rfl | mem
      · exact absurd ⟨e, fault⟩ first
      · obtain ⟨e', later⟩ := ih mem
        exact ⟨e', .later (not_exists.mp first) later⟩

theorem Fault.mem_readingOrder {name : String} (fault : m.Fault name e) : name ∈ readingOrder := by
  cases fault with
  | missing => decide
  | notInteger => decide
  | notText mem =>
    have texts : ["ClassPath", "Name", "LibraryPath", "VmVendor", "VmVersion"] ⊆ readingOrder := by
      decide
    exact texts mem
  | untyped => decide

theorem Fault.missing_of_isUnavailable {name : String} (fault : m.Fault name e)
    (unavailable : e.isUnavailable = true) : m "StartTime" = none := by
  cases fault with
  | missing absent => exact absent
  | notInteger => cases unavailable
  | notText => cases unavailable
  | untyped _ failed =>
    rw [Arguments.isUnavailable_of_ofJson_eq_error failed] at unavailable
    cases unavailable

theorem exists_unavailable_iff :
    (∃ e, m.toAttributes = .error e ∧ e.isUnavailable = true) ↔ m "StartTime" = none := by
  constructor
  · rintro ⟨e, failed, unavailable⟩
    obtain ⟨name, -, fault⟩ := (toAttributes_eq_error_iff.mp failed).exists_fault
    exact fault.missing_of_isUnavailable unavailable
  · intro absent
    exact ⟨_, toAttributes_eq_error_iff.mpr (.here (.missing absent)), rfl⟩

theorem exists_unsupported_iff (present : m "StartTime" ≠ none) :
    (∃ e, m.toAttributes = .error e ∧ e.isUnavailable = false) ↔ ∃ name e, m.Fault name e := by
  constructor
  · rintro ⟨e, failed, -⟩
    obtain ⟨name, -, fault⟩ := (toAttributes_eq_error_iff.mp failed).exists_fault
    exact ⟨name, e, fault⟩
  · rintro ⟨name, e, fault⟩
    obtain ⟨e', first⟩ := fault.exists_firstFault fault.mem_readingOrder
    refine ⟨e', toAttributes_eq_error_iff.mpr first, ?_⟩
    obtain ⟨name', -, fault'⟩ := first.exists_fault
    exact eq_false_of_ne_true fun unavailable =>
      present (fault'.missing_of_isUnavailable unavailable)

/-! ## What the outcome depends on -/

/-- A text as it is read where nothing counts as `null`. -/
theorem text_eq (m : AttributeMap) (name : String) :
    m.text name = match (m name).getD .null with
      | .null => .ok ""
      | .string s => .ok s
      | other => .error (.notText name other) := by
  unfold AttributeMap.text
  cases m name with
  | none => rfl
  | some value => cases value <;> rfl

theorem toAttributes_congr {other : AttributeMap} (start : other "StartTime" = m "StartTime")
    (same : ∀ name ∈ optionalNames, (other name).getD .null = (m name).getD .null) :
    other.toAttributes = m.toAttributes := by
  have startTime : other.startTime = m.startTime := by
    rw [AttributeMap.startTime, start]
    rfl
  have text : ∀ name ∈ optionalNames, other.text name = m.text name := by
    intro name mem
    rw [text_eq, text_eq, same name mem]
  unfold AttributeMap.toAttributes
  rw [startTime, text "ClassPath" (by decide), text "Name" (by decide),
    same "InputArguments" (by decide), text "LibraryPath" (by decide),
    text "VmVendor" (by decide), text "VmVersion" (by decide)]

end AttributeMap

/-- Attributes cannot be had exactly if the start time is missing. Where it is there, a map is
refused exactly if an attribute is at fault; the first one in the order of reading is reported. All
other maps give the attributes that they supply. A map that has the same start time and the same
other attributes, with `null` for nothing or nothing for `null`, has the same outcome. -/
theorem toAttributes_reports_first_fault (m : AttributeMap) :
    ((∃ e, m.toAttributes = .error e ∧ e.isUnavailable = true) ↔ m "StartTime" = none) ∧
      (m "StartTime" ≠ none →
        ((∃ e, m.toAttributes = .error e ∧ e.isUnavailable = false) ↔ ∃ name e, m.Fault name e)) ∧
      (∀ e, m.toAttributes = .error e ↔ m.FirstFault AttributeMap.readingOrder e) ∧
      (∀ a, m.toAttributes = .ok a ↔ m.Supplies a) ∧
      ∀ other : AttributeMap, other "StartTime" = m "StartTime" →
        (∀ name ∈ AttributeMap.optionalNames,
          (other name).getD .null = (m name).getD .null) →
        other.toAttributes = m.toAttributes :=
  ⟨AttributeMap.exists_unavailable_iff, AttributeMap.exists_unsupported_iff,
    fun _ => AttributeMap.toAttributes_eq_error_iff, fun _ => AttributeMap.toAttributes_eq_ok_iff,
    fun _ => AttributeMap.toAttributes_congr⟩

/-- A nested argument and a vendor that is no text, of which the argument is reported. In the other
map a `null` is left out and a member that is no attribute is there. -/
theorem toAttributes_reports_first_fault_nested :
    let m := AttributeMap.ofMembers [("Name", .null), ("StartTime", JsonForm.toJson (-1 : Int64)),
      ("VmVendor", .boolean true), ("InputArguments", .array [.null, .array []])]
    let other := AttributeMap.ofMembers [("VmVendor", .boolean true), ("Uptime", .null),
      ("InputArguments", .array [.null, .array []]), ("StartTime", JsonForm.toJson (-1 : Int64))]
    m "StartTime" ≠ none ∧ m.Fault "VmVendor" (.notText "VmVendor" (.boolean true)) ∧
      (∃ e, m.toAttributes = .error e ∧ e.isUnavailable = false) ∧
      other.toAttributes = m.toAttributes ∧ m.toAttributes = .error (.nested (.array [])) := by
  intro m other
  have present : m "StartTime" ≠ none := nofun
  have vendor : m.Fault "VmVendor" (.notText "VmVendor" (.boolean true)) :=
    .notText (by decide) rfl nofun nofun
  obtain ⟨-, refused, -, -, congr⟩ := toAttributes_reports_first_fault m
  refine ⟨present, vendor, (refused present).mpr ⟨_, _, vendor⟩, congr other rfl ?_, rfl⟩
  intro name mem
  simp only [AttributeMap.optionalNames, List.mem_cons, List.not_mem_nil, or_false] at mem
  rcases mem with rfl | rfl | rfl | rfl | rfl | rfl <;> rfl

end RuntimeMonitor.Identity
