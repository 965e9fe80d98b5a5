import SwapBroker.Proofs.Outcomes
import SwapBroker.Schema

/-!
# What a schema accepts and what it reports

`Conforms` says when a value has a type, without an order of checks. `FirstFault` says which
violation comes first and which field names lead to it. A schema accepts the values that conform and
reports the first violation of any other, under the path of those names. Entries that no field names
do not count.
-/

namespace SwapBroker

open Outcome

def Field.name : Field → String
  | .mk name _ _ => name

theorem FieldType.induction {P : FieldType → Prop} {Q : Field → Prop} (string : P .string)
    (url : P .url) (integer : ∀ min max, P (.integer min max)) (oneOf : ∀ choices, P (.oneOf choices))
    (table : ∀ required optional, (∀ f ∈ required, Q f) → (∀ f ∈ optional, Q f) →
      P (.table required optional))
    (mk : ∀ name type refusal?, P type → Q (.mk name type refusal?)) (type : FieldType) : P type :=
  @FieldType.rec P Q (fun fields => ∀ f ∈ fields, Q f) string url integer oneOf table mk
    (fun _ hf => nomatch hf) (fun _ _ hf hfields => List.forall_mem_cons.mpr ⟨hf, hfields⟩) type

namespace Schema

variable {entries entries' : Toml.Entries} {type : FieldType} {f : Field} {fields : List Field}
  {value value' : Toml} {path : String} {names : List String} {e : ValidationError}

-- ---------------------------------------------------------------------------
-- Values that conform
-- ---------------------------------------------------------------------------

mutual
/-- The value has the type and keeps its limits. A table has all required fields, and every field
that it has, required or optional, conforms. -/
inductive Conforms : FieldType → Toml → Prop
  | string (s : String) : Conforms .string (.string s)
  | url {s : String} (h : isUrl s = true) : Conforms .url (.string s)
  | integer {min max : Option Int} {n : Int} (lower : ∀ m ∈ min, m ≤ n) (upper : ∀ m ∈ max, n ≤ m) :
    Conforms (.integer min max) (.integer n)
  | oneOf {choices : List String} {choice s : String} (mem : choice ∈ choices)
    (same : Text.sameIgnoringCase s choice = true) : Conforms (.oneOf choices) (.string s)
  | table {required optional : List Field} {entries : Toml.Entries}
    (present : ∀ f ∈ required, (Toml.lookup? f.name entries).isSome = true)
    (required_conform : ∀ f ∈ required, ∀ v, Toml.lookup? f.name entries = some v → FieldConforms f v)
    (optional_conform : ∀ f ∈ optional, ∀ v, Toml.lookup? f.name entries = some v → FieldConforms f v) :
    Conforms (.table required optional) (.table entries)
inductive FieldConforms : Field → Toml → Prop
  | mk {name : String} {type : FieldType} {refusal? : Option (Toml → Option String)} {v : Toml}
    (conforms : Conforms type v) (passes : ∀ refusal ∈ refusal?, refusal v = none) :
    FieldConforms (.mk name type refusal?) v
end

def Filled (entries : Toml.Entries) (f : Field) : Prop :=
  ∃ v, Toml.lookup? f.name entries = some v ∧ FieldConforms f v

def Fits (entries : Toml.Entries) (f : Field) : Prop :=
  ∀ v, Toml.lookup? f.name entries = some v → FieldConforms f v

theorem conforms_table_iff {required optional : List Field} :
    Conforms (.table required optional) (.table entries) ↔
      (∀ f ∈ required, Filled entries f) ∧ ∀ f ∈ optional, Fits entries f := by
  constructor
  · intro h
    cases h with
    | table present required_conform optional_conform =>
      refine ⟨fun f hf => ?_, optional_conform⟩
      obtain ⟨v, hv⟩ := Option.isSome_iff_exists.mp (present f hf)
      exact ⟨v, hv, required_conform f hf v hv⟩
  · rintro ⟨hrequired, hoptional⟩
    refine .table (fun f hf => ?_) (fun f hf v hv => ?_) hoptional
    · obtain ⟨v, hv, -⟩ := hrequired f hf
      exact Option.isSome_iff_exists.mpr ⟨v, hv⟩
    · obtain ⟨v', hv', hconforms⟩ := hrequired f hf
      obtain rfl : v' = v := Option.some.inj (hv'.symm.trans hv)
      exact hconforms

theorem fieldConforms_mk_iff {name : String} {refusal? : Option (Toml → Option String)} :
    FieldConforms (.mk name type refusal?) value ↔
      Conforms type value ∧ ∀ refusal ∈ refusal?, refusal value = none :=
  ⟨fun | .mk conforms passes => ⟨conforms, passes⟩, fun ⟨conforms, passes⟩ => .mk conforms passes⟩

-- ---------------------------------------------------------------------------
-- Checks of the fields of a table
-- ---------------------------------------------------------------------------

def checkPresent (path : String) (entries : Toml.Entries) (f : Field) :
    Except ValidationError Unit :=
  match Toml.lookup? f.name entries with
  | none => .error (.missingField (join path f.name))
  | some v => checkField (join path f.name) v f

def checkGiven (path : String) (entries : Toml.Entries) (f : Field) :
    Except ValidationError Unit :=
  match Toml.lookup? f.name entries with
  | none => .ok ()
  | some v => checkField (join path f.name) v f

theorem checkRequired_eq (path : String) (entries : Toml.Entries) (fields : List Field) :
    checkRequired path entries fields = forM fields (checkPresent path entries) := by
  induction fields with
  | nil => rfl
  | cons f rest ih =>
    obtain ⟨name, type, refusal?⟩ := f
    rw [checkRequired, List.forM_cons, ← ih, checkPresent, Field.name]
    cases Toml.lookup? name entries <;> rfl

theorem checkOptional_eq (path : String) (entries : Toml.Entries) (fields : List Field) :
    checkOptional path entries fields = forM fields (checkGiven path entries) := by
  induction fields with
  | nil => rfl
  | cons f rest ih =>
    obtain ⟨name, type, refusal?⟩ := f
    rw [checkOptional, List.forM_cons, ← ih, checkGiven, Field.name]
    cases Toml.lookup? name entries <;> rfl

theorem checkType_table (path : String) (entries : Toml.Entries) (required optional : List Field) :
    checkType path (.table entries) (.table required optional) =
      forM required (checkPresent path entries) >>= fun _ =>
        forM optional (checkGiven path entries) := by
  rw [checkType, checkRequired_eq, checkOptional_eq]

theorem checkField_mk (path : String) (value : Toml) (name : String) (type : FieldType)
    (refusal? : Option (Toml → Option String)) :
    checkField path value (.mk name type refusal?) =
      checkType path value type >>= fun _ =>
        match refusal?.bind (· value) with
        | some reason => .error (.invalidValue path (.custom reason))
        | none => .ok () := by
  rw [checkField]
  rfl

-- ---------------------------------------------------------------------------
-- Acceptance
-- ---------------------------------------------------------------------------

theorem checkPresent_ok (h : ∀ path v, checkField path v f = .ok () ↔ FieldConforms f v) :
    checkPresent path entries f = .ok () ↔ Filled entries f := by
  unfold checkPresent Filled
  cases Toml.lookup? f.name entries with
  | none => simp
  | some v => simp [h]

theorem checkGiven_ok (h : ∀ path v, checkField path v f = .ok () ↔ FieldConforms f v) :
    checkGiven path entries f = .ok () ↔ Fits entries f := by
  unfold checkGiven Fits
  cases Toml.lookup? f.name entries with
  | none => simp
  | some v => simp [h]

theorem bind_eq_none_iff {refusal? : Option (Toml → Option String)} :
    refusal?.bind (· value) = none ↔ ∀ refusal ∈ refusal?, refusal value = none := by
  cases refusal? <;> simp

theorem checkField_ok {name : String} {refusal? : Option (Toml → Option String)}
    (h : ∀ path v, checkType path v type = .ok () ↔ Conforms type v) :
    checkField path value (.mk name type refusal?) = .ok () ↔
      FieldConforms (.mk name type refusal?) value := by
  rw [checkField_mk, bind_ok_iff, exists_check_ok_iff, h, fieldConforms_mk_iff, ← bind_eq_none_iff]
  cases refusal?.bind (· value) <;> simp

theorem inRange_iff {min max : Option Int} {n : Int} :
    inRange min max n = true ↔ (∀ m ∈ min, m ≤ n) ∧ ∀ m ∈ max, n ≤ m := by
  cases min <;> cases max <;> simp [inRange]

theorem checkType_ok (type : FieldType) :
    ∀ path value, checkType path value type = .ok () ↔ Conforms type value := by
  induction type using FieldType.induction (Q := fun f => ∀ path value,
    checkField path value f = .ok () ↔ FieldConforms f value) with
  | string =>
    intro path value
    constructor
    · intro h
      cases value <;> simp [checkType] at h
      exact .string _
    · intro h
      cases h
      rfl
  | url =>
    intro path value
    constructor
    · intro h
      cases value <;> simp [checkType] at h
      exact .url h
    · intro h
      cases h with
      | url h => simp [checkType, h]
  | integer min max =>
    intro path value
    constructor
    · intro h
      cases value <;> simp [checkType] at h
      obtain ⟨lower, upper⟩ := inRange_iff.mp h
      exact .integer lower upper
    · intro h
      cases h with
      | integer lower upper => simp [checkType, inRange_iff.mpr ⟨lower, upper⟩]
  | oneOf choices =>
    intro path value
    constructor
    · intro h
      cases value <;> simp [checkType] at h
      obtain ⟨choice, mem, same⟩ := h
      exact .oneOf mem same
    · intro h
      cases h with
      | oneOf mem same =>
        have hany := List.any_eq_true.mpr ⟨_, mem, same⟩
        simp [checkType, hany]
  | table required optional hrequired hoptional =>
    intro path value
    cases value with
    | table entries =>
      rw [checkType_table, bind_ok_iff, exists_check_ok_iff, forM_ok_iff, forM_ok_iff,
        conforms_table_iff]
      exact and_congr (forall₂_congr fun f hf => checkPresent_ok (hrequired f hf))
        (forall₂_congr fun f hf => checkGiven_ok (hoptional f hf))
    | _ =>
      constructor
      · intro h
        simp [checkType] at h
      · intro h
        cases h
  | mk name type refusal? h => exact checkField_ok h

theorem checkField_ok_iff (f : Field) (path : String) (value : Toml) :
    checkField path value f = .ok () ↔ FieldConforms f value := by
  obtain ⟨name, type, refusal?⟩ := f
  exact checkField_ok (checkType_ok type)

-- ---------------------------------------------------------------------------
-- The first violation
-- ---------------------------------------------------------------------------

inductive Fault where
  | missing
  | mismatch (expected actual : String)
  | refused (fault : ValueFault)

/-- The names from the root to a field, joined by dots. -/
def fieldPath (names : List String) : String :=
  if names = [] then "root" else ".".intercalate names

def Fault.report (names : List String) : Fault → ValidationError
  | missing => .missingField (fieldPath names)
  | mismatch expected actual => .typeMismatch (fieldPath names) expected actual
  | refused fault => .invalidValue (fieldPath names) fault

def kind : FieldType → String
  | .string | .url | .oneOf _ => "string"
  | .integer _ _ => "integer"
  | .table _ _ => "table"

mutual
/-- The first violation of a type, and the names of the fields that lead to it. In a table the
required fields come before the optional ones, and all fields before the violated one conform. -/
inductive FirstFault : FieldType → Toml → List String → Fault → Prop
  | wrongType {type : FieldType} {v : Toml} (h : v.typeName ≠ kind type) :
    FirstFault type v [] (.mismatch (kind type) v.typeName)
  | notUrl {s : String} (h : isUrl s = false) : FirstFault .url (.string s) [] (.refused .notUrl)
  | outOfRange {min max : Option Int} {n : Int} (h : ¬ ((∀ m ∈ min, m ≤ n) ∧ ∀ m ∈ max, n ≤ m)) :
    FirstFault (.integer min max) (.integer n) [] (.refused (.outOfRange n min max))
  | notOneOf {choices : List String} {s : String}
    (h : ∀ choice ∈ choices, Text.sameIgnoringCase s choice = false) :
    FirstFault (.oneOf choices) (.string s) [] (.refused (.notOneOf choices))
  | missing {before after optional : List Field} {f : Field} {entries : Toml.Entries}
    (passed : ∀ g ∈ before, Filled entries g) (absent : Toml.lookup? f.name entries = none) :
    FirstFault (.table (before ++ f :: after) optional) (.table entries) [f.name] .missing
  | required {before after optional : List Field} {f : Field} {entries : Toml.Entries} {v : Toml}
    {names : List String} {fault : Fault} (passed : ∀ g ∈ before, Filled entries g)
    (found : Toml.lookup? f.name entries = some v) (violated : FieldFault f v names fault) :
    FirstFault (.table (before ++ f :: after) optional) (.table entries) (f.name :: names) fault
  | optional {required before after : List Field} {f : Field} {entries : Toml.Entries} {v : Toml}
    {names : List String} {fault : Fault} (filled : ∀ g ∈ required, Filled entries g)
    (passed : ∀ g ∈ before, Fits entries g) (found : Toml.lookup? f.name entries = some v)
    (violated : FieldFault f v names fault) :
    FirstFault (.table required (before ++ f :: after)) (.table entries) (f.name :: names) fault
inductive FieldFault : Field → Toml → List String → Fault → Prop
  | type {name : String} {type : FieldType} {refusal? : Option (Toml → Option String)} {v : Toml}
    {names : List String} {fault : Fault} (violated : FirstFault type v names fault) :
    FieldFault (.mk name type refusal?) v names fault
  | own {name : String} {type : FieldType} {refusal : Toml → Option String} {v : Toml}
    {reason : String} (conforms : Conforms type v) (refused : refusal v = some reason) :
    FieldFault (.mk name type (some refusal)) v [] (.refused (.custom reason))
end

mutual
inductive Named : FieldType → Prop
  | string : Named .string
  | url : Named .url
  | integer (min max : Option Int) : Named (.integer min max)
  | oneOf (choices : List String) : Named (.oneOf choices)
  | table {required optional : List Field} (required_named : ∀ f ∈ required, FieldNamed f)
    (optional_named : ∀ f ∈ optional, FieldNamed f) : Named (.table required optional)
inductive FieldNamed : Field → Prop
  | mk {name : String} {type : FieldType} {refusal? : Option (Toml → Option String)}
    (nonempty : name ≠ "") (named : Named type) : FieldNamed (.mk name type refusal?)
end

-- ---------------------------------------------------------------------------
-- Paths
-- ---------------------------------------------------------------------------

theorem intercalate_ne_empty (hne : names ≠ []) (h : ∀ n ∈ names, n ≠ "") :
    ".".intercalate names ≠ "" := by
  obtain ⟨n, rest, rfl⟩ := List.exists_cons_of_ne_nil hne
  have hn : n ≠ "" := h n List.mem_cons_self
  cases rest with
  | nil => rwa [String.intercalate_singleton]
  | cons m rest =>
    rw [String.intercalate_cons_of_ne_nil (by simp)]
    simp [hn]

theorem tablePath_intercalate (h : ∀ n ∈ names, n ≠ "") :
    tablePath (".".intercalate names) = fieldPath names := by
  by_cases hne : names = []
  · subst hne
    rfl
  · rw [tablePath, if_neg (intercalate_ne_empty hne h), fieldPath, if_neg hne]

theorem fieldPath_of_ne_nil (h : names ≠ []) : fieldPath names = ".".intercalate names := by
  rw [fieldPath, if_neg h]

theorem join_intercalate (h : ∀ n ∈ names, n ≠ "") (name : String) :
    join (".".intercalate names) name = ".".intercalate (names ++ [name]) := by
  by_cases hne : names = []
  · subst hne
    rw [List.nil_append, String.intercalate_singleton]
    rfl
  · rw [join, if_neg (intercalate_ne_empty hne h), String.intercalate_append_of_ne_nil hne (by simp),
      String.intercalate_singleton]

theorem report_cons (fault : Fault) (names inner : List String) (name : String) :
    fault.report (names ++ name :: inner) = fault.report ((names ++ [name]) ++ inner) := by
  rw [List.append_assoc]
  rfl

theorem report_missing (names : List String) (name : String) :
    Fault.missing.report (names ++ [name]) =
      .missingField (".".intercalate (names ++ [name])) := by
  rw [Fault.report, fieldPath_of_ne_nil (by simp)]

-- ---------------------------------------------------------------------------
-- Reports
-- ---------------------------------------------------------------------------

def Reports (type : FieldType) (names : List String) : Prop :=
  ∀ v e, checkType (".".intercalate names) v type = .error e ↔
    ∃ inner fault, FirstFault type v inner fault ∧ e = fault.report (names ++ inner)

def FieldReports (f : Field) (names : List String) : Prop :=
  ∀ v e, checkField (".".intercalate names) v f = .error e ↔
    ∃ inner fault, FieldFault f v inner fault ∧ e = fault.report (names ++ inner)

theorem checkPresent_error (hnames : ∀ n ∈ names, n ≠ "") (h : FieldReports f (names ++ [f.name])) :
    checkPresent (".".intercalate names) entries f = .error e ↔
      Toml.lookup? f.name entries = none ∧ e = Fault.missing.report (names ++ [f.name]) ∨
        ∃ v, Toml.lookup? f.name entries = some v ∧
          ∃ inner fault, FieldFault f v inner fault ∧ e = fault.report (names ++ f.name :: inner) := by
  rw [report_missing]
  simp only [checkPresent, join_intercalate hnames, report_cons]
  cases Toml.lookup? f.name entries with
  | none => simp [eq_comm]
  | some v => simp [h v e]

theorem checkGiven_error (hnames : ∀ n ∈ names, n ≠ "") (h : FieldReports f (names ++ [f.name])) :
    checkGiven (".".intercalate names) entries f = .error e ↔
      ∃ v, Toml.lookup? f.name entries = some v ∧
        ∃ inner fault, FieldFault f v inner fault ∧ e = fault.report (names ++ f.name :: inner) := by
  simp only [checkGiven, join_intercalate hnames, report_cons]
  cases Toml.lookup? f.name entries with
  | none => simp
  | some v => simp [h v e]

theorem firstFault_of_wrongType {inner : List String} {fault : Fault}
    (h : value.typeName ≠ kind type) (hfault : FirstFault type value inner fault) :
    inner = [] ∧ fault = .mismatch (kind type) value.typeName := by
  cases hfault with
  | wrongType => exact ⟨rfl, rfl⟩
  | _ => exact absurd rfl h

/-- Every type refuses the values of other types alike, a table at the root by that name. -/
theorem checkType_wrongType (hnames : ∀ n ∈ names, n ≠ "") (hroot : names = [] → kind type = "table")
    (h : value.typeName ≠ kind type) :
    checkType (".".intercalate names) value type =
      .error ((Fault.mismatch (kind type) value.typeName).report names) := by
  cases type with
  | table required optional =>
    rw [Fault.report, ← tablePath_intercalate hnames]
    cases value with
    | table => exact absurd rfl h
    | _ => rfl
  | integer =>
    rw [Fault.report, fieldPath_of_ne_nil (by simpa [kind] using hroot)]
    cases value with
    | integer => exact absurd rfl h
    | _ => rfl
  | _ =>
    rw [Fault.report, fieldPath_of_ne_nil (by simpa [kind] using hroot)]
    cases value with
    | string => exact absurd rfl h
    | _ => rfl

theorem error_of_wrongType (hnames : ∀ n ∈ names, n ≠ "") (hroot : names = [] → kind type = "table")
    (h : value.typeName ≠ kind type) :
    checkType (".".intercalate names) value type = .error e ↔
      ∃ inner fault, FirstFault type value inner fault ∧ e = fault.report (names ++ inner) := by
  rw [checkType_wrongType hnames hroot h]
  constructor
  · intro he
    exact ⟨[], _, .wrongType h, by rw [List.append_nil, Except.error.inj he]⟩
  · rintro ⟨inner, fault, hfault, rfl⟩
    obtain ⟨rfl, rfl⟩ := firstFault_of_wrongType h hfault
    rw [List.append_nil]

theorem reports_table {required optional : List Field} (hnames : ∀ n ∈ names, n ≠ "")
    (hrequired : ∀ f ∈ required, FieldReports f (names ++ [f.name]))
    (hoptional : ∀ f ∈ optional, FieldReports f (names ++ [f.name])) :
    Reports (.table required optional) names := by
  intro v e
  cases v with
  | table entries =>
    have hfilled (g : Field) : checkPresent (".".intercalate names) entries g = .ok () ↔
      Filled entries g := checkPresent_ok (checkField_ok_iff g)
    have hfits (g : Field) : checkGiven (".".intercalate names) entries g = .ok () ↔
      Fits entries g := checkGiven_ok (checkField_ok_iff g)
    rw [checkType_table, bind_error_iff, exists_check_ok_iff, forM_ok_iff, forM_error_iff,
      forM_error_iff]
    simp only [hfilled, hfits]
    -- The field that fails is one of the required or, after all of them, one of the optional fields.
    constructor
    · rintro (⟨before, f, after, rfl, passed, hf⟩ | ⟨filled, before, f, after, rfl, passed, hf⟩)
      · rcases (checkPresent_error hnames (hrequired f (by simp))).mp hf with
          ⟨absent, he⟩ | ⟨v, found, inner, fault, violated, he⟩
        · exact ⟨_, _, .missing passed absent, he⟩
        · exact ⟨_, _, .required passed found violated, he⟩
      · obtain ⟨v, found, inner, fault, violated, he⟩ :=
          (checkGiven_error hnames (hoptional f (by simp))).mp hf
        exact ⟨_, _, .optional filled passed found violated, he⟩
    · rintro ⟨inner, fault, hfirst, he⟩
      cases hfirst with
      | wrongType h => exact absurd rfl h
      | missing passed absent =>
        refine .inl ⟨_, _, _, rfl, passed, ?_⟩
        exact (checkPresent_error hnames (hrequired _ (by simp))).mpr (.inl ⟨absent, he⟩)
      | required passed found violated =>
        refine .inl ⟨_, _, _, rfl, passed, ?_⟩
        exact (checkPresent_error hnames (hrequired _ (by simp))).mpr
          (.inr ⟨_, found, _, _, violated, he⟩)
      | optional filled passed found violated =>
        refine .inr ⟨filled, _, _, _, rfl, passed, ?_⟩
        exact (checkGiven_error hnames (hoptional _ (by simp))).mpr ⟨_, found, _, _, violated, he⟩
  | _ => exact error_of_wrongType hnames (fun _ => rfl) (by simp [Toml.typeName, kind])

theorem fieldReports_mk {name : String} {refusal? : Option (Toml → Option String)} (hne : names ≠ [])
    (h : Reports type names) : FieldReports (.mk name type refusal?) names := by
  intro v e
  rw [checkField_mk, bind_error_iff, exists_check_ok_iff, checkType_ok, h v e]
  constructor
  · rintro (⟨inner, fault, violated, he⟩ | ⟨conforms, hown⟩)
    · exact ⟨inner, fault, .type violated, he⟩
    · -- Without a fault of the type the error is that of the field's own check.
      cases refusal? with
      | none => simp at hown
      | some refusal =>
        cases hrefusal : refusal v with
        | none => simp [hrefusal] at hown
        | some reason =>
          refine ⟨[], _, .own conforms hrefusal, ?_⟩
          simpa [hrefusal, Fault.report, fieldPath_of_ne_nil hne, eq_comm] using hown
  · rintro ⟨inner, fault, hfault, rfl⟩
    cases hfault with
    | type violated => exact .inl ⟨inner, fault, violated, rfl⟩
    | own conforms refused =>
      refine .inr ⟨conforms, ?_⟩
      simp [refused, Fault.report, fieldPath_of_ne_nil hne]

theorem report_refused (hne : names ≠ []) (fault : ValueFault) :
    (Fault.refused fault).report names = .invalidValue (".".intercalate names) fault := by
  rw [Fault.report, fieldPath_of_ne_nil hne]

theorem error_of_limits {p : Prop} [Decidable p] {fault : ValueFault} (hne : names ≠ [])
    (hcheck : checkType (".".intercalate names) value type =
      if p then .ok () else .error (.invalidValue (".".intercalate names) fault))
    (hfirst : ∀ inner g, FirstFault type value inner g ↔ ¬ p ∧ inner = [] ∧ g = .refused fault) :
    checkType (".".intercalate names) value type = .error e ↔
      ∃ inner g, FirstFault type value inner g ∧ e = g.report (names ++ inner) := by
  simp only [hcheck, hfirst]
  by_cases hp : p
  · simp [hp]
  · rw [if_neg hp, Except.error.injEq]
    constructor
    · rintro rfl
      exact ⟨[], _, ⟨hp, rfl, rfl⟩, by rw [List.append_nil, report_refused hne]⟩
    · rintro ⟨inner, g, ⟨-, rfl, rfl⟩, rfl⟩
      rw [List.append_nil, report_refused hne]

theorem reports_string (hne : names ≠ []) (hnames : ∀ n ∈ names, n ≠ "") : Reports .string names := by
  intro v e
  cases v with
  | string s =>
    constructor
    · intro h
      cases h
    · rintro ⟨inner, fault, hfault, -⟩
      cases hfault with
      | wrongType h => exact absurd rfl h
  | _ => exact error_of_wrongType hnames (absurd · hne) (by simp [Toml.typeName, kind])

theorem reports_url (hne : names ≠ []) (hnames : ∀ n ∈ names, n ≠ "") : Reports .url names := by
  intro v e
  cases v with
  | string s =>
    refine error_of_limits hne rfl fun inner g => ⟨fun h => ?_, ?_⟩
    · cases h with
      | wrongType h => exact absurd rfl h
      | notUrl h => exact ⟨by simp [h], rfl, rfl⟩
    · rintro ⟨h, rfl, rfl⟩
      exact .notUrl (Bool.of_not_eq_true h)
  | _ => exact error_of_wrongType hnames (absurd · hne) (by simp [Toml.typeName, kind])

theorem reports_integer (min max : Option Int) (hne : names ≠ []) (hnames : ∀ n ∈ names, n ≠ "") :
    Reports (.integer min max) names := by
  intro v e
  cases v with
  | integer n =>
    refine error_of_limits hne rfl fun inner g => ⟨fun h => ?_, ?_⟩
    · cases h with
      | wrongType h => exact absurd rfl h
      | outOfRange h => exact ⟨mt inRange_iff.mp h, rfl, rfl⟩
    · rintro ⟨h, rfl, rfl⟩
      exact .outOfRange (mt inRange_iff.mpr h)
  | _ => exact error_of_wrongType hnames (absurd · hne) (by simp [Toml.typeName, kind])

theorem reports_oneOf (choices : List String) (hne : names ≠ []) (hnames : ∀ n ∈ names, n ≠ "") :
    Reports (.oneOf choices) names := by
  intro v e
  cases v with
  | string s =>
    refine error_of_limits hne rfl fun inner g => ⟨fun h => ?_, ?_⟩
    · cases h with
      | wrongType h => exact absurd rfl h
      | notOneOf h => exact ⟨by simpa using h, rfl, rfl⟩
    · rintro ⟨h, rfl, rfl⟩
      exact .notOneOf (by simpa using h)
  | _ => exact error_of_wrongType hnames (absurd · hne) (by simp [Toml.typeName, kind])

/-- The error of a type is the report of its first violation. Only a table may be the root. -/
theorem reports_of_named (type : FieldType) : Named type → ∀ names,
    (names = [] → kind type = "table") → (∀ n ∈ names, n ≠ "") → Reports type names := by
  -- The induction is on the nesting of the type; each field adds its name to the path.
  induction type using FieldType.induction (Q := fun f => FieldNamed f → ∀ names,
    (∀ n ∈ names, n ≠ "") → FieldReports f (names ++ [f.name])) with
  | string => exact fun _ names hroot => reports_string (by simpa [kind] using hroot)
  | url => exact fun _ names hroot => reports_url (by simpa [kind] using hroot)
  | integer min max => exact fun _ names hroot => reports_integer min max (by simpa [kind] using hroot)
  | oneOf choices => exact fun _ names hroot => reports_oneOf choices (by simpa [kind] using hroot)
  | table required optional hrequired hoptional =>
    intro hnamed names _ hnames
    cases hnamed with
    | table required_named optional_named =>
      exact reports_table hnames (fun f hf => hrequired f hf (required_named f hf) names hnames)
        fun f hf => hoptional f hf (optional_named f hf) names hnames
  | mk name type refusal? h hfield names hnames =>
    cases hfield with
    | mk nonempty named =>
      have hall : ∀ n ∈ names ++ [name], n ≠ "" := by
        simpa [or_imp, forall_and] using ⟨hnames, nonempty⟩
      exact fieldReports_mk (by simp) (h named _ (by simp) hall)

-- ---------------------------------------------------------------------------
-- Entries that no field names
-- ---------------------------------------------------------------------------

mutual
/-- The values are the same in all that a type names: equal, or tables that agree on its fields and may
differ in other entries. A field's own check sees the whole value and has to give the same answer. -/
inductive Agree : FieldType → Toml → Toml → Prop
  | refl (type : FieldType) (v : Toml) : Agree type v v
  | table {required optional : List Field} {entries entries' : Toml.Entries}
    (absent : ∀ f ∈ required ++ optional,
      Toml.lookup? f.name entries = none ↔ Toml.lookup? f.name entries' = none)
    (given : ∀ f ∈ required ++ optional, ∀ v v', Toml.lookup? f.name entries = some v →
      Toml.lookup? f.name entries' = some v' → FieldAgree f v v') :
    Agree (.table required optional) (.table entries) (.table entries')
inductive FieldAgree : Field → Toml → Toml → Prop
  | mk {name : String} {type : FieldType} {refusal? : Option (Toml → Option String)} {v v' : Toml}
    (agree : Agree type v v') (same : ∀ refusal ∈ refusal?, refusal v = refusal v') :
    FieldAgree (.mk name type refusal?) v v'
end

theorem FieldAgree.refl (f : Field) (v : Toml) : FieldAgree f v v := by
  obtain ⟨name, type, refusal?⟩ := f
  exact .mk (.refl type v) fun _ _ => rfl

def CheckedAlike (entries entries' : Toml.Entries) (f : Field) : Prop :=
  Toml.lookup? f.name entries = none ∧ Toml.lookup? f.name entries' = none ∨
    ∃ v v', Toml.lookup? f.name entries = some v ∧ Toml.lookup? f.name entries' = some v' ∧
      ∀ path, checkField path v f = checkField path v' f

theorem CheckedAlike.checkPresent_eq (h : CheckedAlike entries entries' f) (path : String) :
    checkPresent path entries f = checkPresent path entries' f := by
  unfold checkPresent
  obtain ⟨hnone, hnone'⟩ | ⟨v, v', hv, hv', hsame⟩ := h
  · rw [hnone, hnone']
  · rw [hv, hv']
    exact hsame _

theorem CheckedAlike.checkGiven_eq (h : CheckedAlike entries entries' f) (path : String) :
    checkGiven path entries f = checkGiven path entries' f := by
  unfold checkGiven
  obtain ⟨hnone, hnone'⟩ | ⟨v, v', hv, hv', hsame⟩ := h
  · rw [hnone, hnone']
  · rw [hv, hv']
    exact hsame _

theorem checkedAlike (habsent : Toml.lookup? f.name entries = none ↔ Toml.lookup? f.name entries' = none)
    (hgiven : ∀ v v', Toml.lookup? f.name entries = some v → Toml.lookup? f.name entries' = some v' →
      ∀ path, checkField path v f = checkField path v' f) : CheckedAlike entries entries' f := by
  cases hv : Toml.lookup? f.name entries with
  | none => exact .inl ⟨hv, habsent.mp hv⟩
  | some v =>
    cases hv' : Toml.lookup? f.name entries' with
    | none => rw [habsent.mpr hv'] at hv; cases hv
    | some v' => exact .inr ⟨v, v', hv, hv', hgiven v v' hv hv'⟩

theorem checkType_agree (type : FieldType) : ∀ path v v', Agree type v v' →
    checkType path v type = checkType path v' type := by
  induction type using FieldType.induction (Q := fun f => ∀ path v v', FieldAgree f v v' →
    checkField path v f = checkField path v' f) with
  | table required optional hrequired hoptional =>
    intro path v v' h
    cases h with
    | refl => rfl
    | @table _ _ entries entries' absent given =>
      have hfield : ∀ f ∈ required ++ optional, ∀ path v v', FieldAgree f v v' →
          checkField path v f = checkField path v' f :=
        List.forall_mem_append.mpr ⟨hrequired, hoptional⟩
      have halike : ∀ f ∈ required ++ optional, CheckedAlike entries entries' f := fun f hf =>
        checkedAlike (absent f hf) fun v v' hv hv' path => hfield f hf path v v' (given f hf v v' hv hv')
      obtain ⟨hr, ho⟩ := List.forall_mem_append.mp halike
      rw [checkType_table, checkType_table, forM_congr fun f hf => (hr f hf).checkPresent_eq path,
        forM_congr fun f hf => (ho f hf).checkGiven_eq path]
  | mk name type refusal? h path v v' hagree =>
    cases hagree with
    | mk agree same =>
      have hown : refusal?.bind (· v) = refusal?.bind (· v') := by
        cases refusal? with
        | none => rfl
        | some refusal => exact same refusal rfl
      rw [checkField_mk, checkField_mk, h path v v' agree, hown]
  | _ =>
    intro path v v' h
    cases h
    rfl

/-- A schema accepts the values that conform. Of any other it reports the first violation, at the path
of the field names that lead to it. Entries without a field, at any depth, change nothing. -/
theorem validate_explained (s : Schema) (value : Toml) :
    (s.validate value = .ok () ↔ Conforms (.table s.required s.optional) value) ∧
    (Named (.table s.required s.optional) → ∀ e, s.validate value = .error e ↔
      ∃ names fault, FirstFault (.table s.required s.optional) value names fault ∧
        e = fault.report names) ∧
    ∀ value', Agree (.table s.required s.optional) value value' →
      s.validate value' = s.validate value := by
  refine ⟨checkType_ok _ _ _, fun hnamed e => ?_, fun value' h => (checkType_agree _ _ _ _ h).symm⟩
  exact reports_of_named _ hnamed [] (fun _ => rfl) (by simp) value e

def authorization : Field :=
  .mk "authorization" .string none

def headers : Field :=
  .mk "headers" (.table [] [authorization]) none

def timeoutSeconds : Field :=
  .mk "timeout_seconds" (.integer (some 1) (some 300)) none

def nestedSchema : Schema where
  required := [.mk "url" .url none]
  optional := [timeoutSeconds, headers]

def withHeaders (others entries : Toml.Entries) : Toml :=
  .table (others ++ [("url", .string "http://rpc"), ("headers", .table entries)])

theorem validate_explained_headers :
    nestedSchema.validate (withHeaders [] [("authorization", .integer 5)]) =
        .error (.typeMismatch "headers.authorization" "string" "integer") ∧
      nestedSchema.validate (withHeaders [("proxy", .boolean true)]
          [("accept", .string "json"), ("authorization", .integer 5)]) =
        .error (.typeMismatch "headers.authorization" "string" "integer") := by
  obtain ⟨-, hreports, hunnamed⟩ := validate_explained nestedSchema
    (withHeaders [] [("authorization", .integer 5)])
  have hheaders : FieldNamed headers :=
    .mk (by decide) (.table (by simp) (by simpa using .mk (by decide) .string))
  have hnamed : Named (.table nestedSchema.required nestedSchema.optional) :=
    .table (by simpa [nestedSchema] using .mk (by decide) .url)
      (by simpa [nestedSchema] using ⟨.mk (by decide) (.integer _ _), hheaders⟩)
  have hinner : FieldFault headers (.table [("authorization", .integer 5)]) ["authorization"]
      (.mismatch "string" "integer") :=
    .type (@FirstFault.optional [] [] [] authorization _ _ _ _ (by simp) (by simp) rfl
      (.type (.wrongType (by decide))))
  have hfirst : FirstFault (.table nestedSchema.required nestedSchema.optional)
      (withHeaders [] [("authorization", .integer 5)]) ["headers", "authorization"]
      (.mismatch "string" "integer") := by
    refine @FirstFault.optional _ [timeoutSeconds] [] headers _ _ _ _ ?_ ?_ rfl hinner
    · simpa [nestedSchema] using ⟨.string "http://rpc", rfl, .mk (.url (by decide)) (by simp)⟩
    · simp [Fits, timeoutSeconds, Field.name, Toml.lookup?]
  have herror := (hreports hnamed _).mpr ⟨_, _, hfirst, rfl⟩
  have hagree : FieldAgree headers (.table [("authorization", .integer 5)])
      (.table [("accept", .string "json"), ("authorization", .integer 5)]) := by
    refine .mk (.table (by simp [authorization, Field.name, Toml.lookup?]) ?_) (by simp)
    simp [authorization, Field.name, Toml.lookup?, FieldAgree.refl]
  refine ⟨herror, (hunnamed _ (.table ?_ ?_)).trans herror⟩
  · simp [nestedSchema, headers, timeoutSeconds, Field.name, Toml.lookup?]
  · simp only [nestedSchema, headers, timeoutSeconds] at hagree ⊢
    simp [Field.name, Toml.lookup?, FieldAgree.refl, hagree]

end Schema

end SwapBroker
