import Mathlib.Algebra.Order.Ring.Rat
import Mathlib.Data.List.Basic

/-!
Contract: JSON documents, and codecs between values and documents.

A codec writes every value, but may write one that it does not read back: a number
that is not finite is written as `null`, and `null` is no number. A codec therefore
says which values it reads back, and refuses the documents of all others.

Owns: documents, the codecs of scalars, options, lists, dictionaries, tuples, records
and enumerations, and when what they write is read back.

Does not own: the text of a document, or any particular record.
-/

namespace Npt.Core

inductive Json where
  | null
  | boolean (value : Bool)
  | integer (value : Int)
  | real (value : Rat)
  | text (value : String)
  | array (items : List Json)
  | object (entries : List (String × Json))

/-- A writer and a reader. `missing` is what a record's reader takes for an absent
field. -/
structure Codec (Value : Type) where
  write : Value → Json
  read : Json → Option Value
  missing : Option Value := none
  Readable : Value → Prop
  read_write : ∀ value, Readable value → read (write value) = some value
  read_unreadable : ∀ value, ¬Readable value → read (write value) = none

namespace Codec

variable {Value Other : Type}

theorem read_write_iff (codec : Codec Value) {value : Value} :
    codec.read (codec.write value) = some value ↔ codec.Readable value := by
  constructor
  · intro reads
    by_contra unreadable
    rw [codec.read_unreadable value unreadable] at reads
    cases reads
  · exact codec.read_write value

/-- The codec leaves `null` free. -/
def NotNull (codec : Codec Value) : Prop := ∀ value, codec.write value ≠ .null

/-! ## Scalars -/

def text : Codec String where
  write := .text
  read
    | .text value => some value
    | _ => none
  Readable _ := True
  read_write _ _ := rfl
  read_unreadable _ unreadable := absurd trivial unreadable

def natural : Codec Nat where
  write value := .integer value
  read
    | .integer value => value.toNat?
    | _ => none
  Readable _ := True
  read_write _ _ := rfl
  read_unreadable _ unreadable := absurd trivial unreadable

/-- Finite numbers; an integer is read as one. -/
def real : Codec Rat where
  write := .real
  read
    | .real value => some value
    | .integer value => some value
    | _ => none
  Readable _ := True
  read_write _ _ := rfl
  read_unreadable _ unreadable := absurd trivial unreadable

/-- Numbers of which `none` is not finite: it is written as `null`. -/
def float : Codec (Option Rat) where
  write
    | some value => real.write value
    | none => .null
  read document := (real.read document).map some
  Readable value := value.isSome = true
  read_write value finite := by
    obtain ⟨number, rfl⟩ := Option.isSome_iff_exists.mp finite
    rfl
  read_unreadable value infinite := by
    cases value with
    | none => rfl
    | some number => exact absurd rfl infinite

/-- The values that have a place among those of another codec. -/
def via (codec : Codec Other) (into : Value → Other) (back : Other → Option Value)
    (back_into : ∀ value, back (into value) = some value) : Codec Value where
  write value := codec.write (into value)
  read document := (codec.read document).bind back
  missing := codec.missing.bind back
  Readable value := codec.Readable (into value)
  read_write value readable := by
    rw [codec.read_write _ readable]
    exact back_into value
  read_unreadable value unreadable := by
    rw [codec.read_unreadable _ unreadable]
    rfl

/-- Enumerations without contents, by name. -/
def enumeration (name : Value → String) (values : List Value)
    (found : ∀ value, values.find? (fun other => name other = name value) = some value) :
    Codec Value :=
  text.via name (fun written => values.find? (fun other => name other = written)) found

/-! ## Containers -/

/-- `null` is no value, and any other document one. -/
def readOptional (codec : Codec Value) : Json → Option (Option Value)
  | .null => some none
  | document => (codec.read document).map some

theorem readOptional_of_ne_null (codec : Codec Value) {document : Json}
    (present : document ≠ .null) :
    codec.readOptional document = (codec.read document).map some := by
  cases document with
  | null => exact absurd rfl present
  | _ => rfl

def optional (codec : Codec Value) (notNull : codec.NotNull) : Codec (Option Value) where
  write
    | some value => codec.write value
    | none => .null
  read := codec.readOptional
  missing := some none
  Readable value := ∀ inner ∈ value, codec.Readable inner
  read_write value readable := by
    cases value with
    | none => rfl
    | some inner =>
        rw [codec.readOptional_of_ne_null (notNull inner),
          codec.read_write inner (readable inner rfl), Option.map_some]
  read_unreadable value unreadable := by
    cases value with
    | none => exact absurd (fun _ member => nomatch member) unreadable
    | some inner =>
        have refused : ¬codec.Readable inner :=
          fun readable => unreadable (fun _ member => Option.some.inj member ▸ readable)
        rw [codec.readOptional_of_ne_null (notNull inner), codec.read_unreadable inner refused,
          Option.map_none]

section Each

variable {Written : Type} {write : Value → Written} {read : Written → Option Value}
  {values : List Value}

theorem mapM_of_reads (reads : ∀ value ∈ values, read (write value) = some value) :
    (values.map write).mapM read = some values := by
  induction values with
  | nil => rfl
  | cons value values inductionHypothesis =>
      have others := inductionHypothesis
        (fun other member => reads other (List.mem_cons_of_mem value member))
      simp [reads value List.mem_cons_self, others]

theorem mapM_of_refuses {value : Value} (member : value ∈ values)
    (refuses : read (write value) = none) : (values.map write).mapM read = none := by
  induction values with
  | nil => cases member
  | cons head values inductionHypothesis =>
      rcases List.mem_cons.mp member with rfl | later
      · simp [refuses]
      · cases first : read (write head) with
        | none => simp [first]
        | some value => simp [first, inductionHypothesis later]

end Each

def array (codec : Codec Value) : Codec (List Value) where
  write values := .array (values.map codec.write)
  read
    | .array items => items.mapM codec.read
    | _ => none
  Readable values := ∀ value ∈ values, codec.Readable value
  read_write _ readable := mapM_of_reads (fun value member =>
    codec.read_write value (readable value member))
  read_unreadable values unreadable := by
    push Not at unreadable
    obtain ⟨value, member, refused⟩ := unreadable
    exact mapM_of_refuses member (codec.read_unreadable value refused)

/-- Keys and values as an object. -/
def dictionary (codec : Codec Value) : Codec (List (String × Value)) where
  write values := .object (values.map (fun entry => (entry.1, codec.write entry.2)))
  read
    | .object entries =>
        entries.mapM (fun entry => (codec.read entry.2).map (fun value => (entry.1, value)))
    | _ => none
  Readable values := ∀ entry ∈ values, codec.Readable entry.2
  read_write values readable := mapM_of_reads (fun entry member => by
    rw [codec.read_write entry.2 (readable entry member)]
    rfl)
  read_unreadable values unreadable := by
    push Not at unreadable
    obtain ⟨entry, member, refused⟩ := unreadable
    refine mapM_of_refuses member ?_
    rw [codec.read_unreadable entry.2 refused]
    rfl

/-- Two values as an array of two. -/
def pair (first : Codec Value) (second : Codec Other) : Codec (Value × Other) where
  write values := .array [first.write values.1, second.write values.2]
  read
    | .array [left, right] => do
        let one ← first.read left
        let two ← second.read right
        return (one, two)
    | _ => none
  Readable values := first.Readable values.1 ∧ second.Readable values.2
  read_write values readable := by
    simp [first.read_write _ readable.1, second.read_write _ readable.2]
  read_unreadable values unreadable := by
    by_cases one : first.Readable values.1
    · have two := second.read_unreadable values.2 (fun readable => unreadable ⟨one, readable⟩)
      simp [first.read_write _ one, two]
    · simp [first.read_unreadable _ one]

end Codec

/-! ## Records -/

/-- The fields of a record, first to last: what is written under their names, and what
is read from the entries under them. -/
structure Fields (Value : Type) where
  names : List String
  write : Value → List (String × Json)
  read : List (String × Json) → Option Value
  Readable : Value → Prop
  read_congr : ∀ {left right : List (String × Json)},
    (∀ name ∈ names, left.lookup name = right.lookup name) → read left = read right
  read_write : ∀ value, Readable value → read (write value) = some value
  read_unreadable : ∀ value, ¬Readable value → read (write value) = none

namespace Fields

variable {Value Other : Type}

def nothing : Fields Unit where
  names := []
  write _ := []
  read _ := some ()
  Readable _ := True
  read_congr _ := rfl
  read_write _ _ := rfl
  read_unreadable _ unreadable := absurd trivial unreadable

@[simp] theorem names_nothing : nothing.names = [] := rfl

/-- What a codec reads from the entry under a name. -/
def readEntry (name : String) (codec : Codec Value) (entries : List (String × Json)) :
    Option Value :=
  match entries.lookup name with
  | some document => codec.read document
  | none => codec.missing

/-- An entry in front does not matter to fields of other names. -/
theorem read_cons (rest : Fields Other) {name : String} (fresh : name ∉ rest.names)
    (document : Json) (entries : List (String × Json)) :
    rest.read ((name, document) :: entries) = rest.read entries := by
  refine rest.read_congr (fun other member => ?_)
  have different : (other == name) = false := by
    rw [beq_eq_false_iff_ne]
    rintro rfl
    exact fresh member
  rw [List.lookup_cons, different]

def field (name : String) (codec : Codec Value) (rest : Fields Other)
    (fresh : name ∉ rest.names := by simp) : Fields (Value × Other) where
  names := name :: rest.names
  write values := (name, codec.write values.1) :: rest.write values.2
  read entries := do
    let value ← readEntry name codec entries
    let others ← rest.read entries
    return (value, others)
  Readable values := codec.Readable values.1 ∧ rest.Readable values.2
  read_congr same := by
    rw [readEntry, readEntry, same name List.mem_cons_self,
      rest.read_congr (fun other member => same other (List.mem_cons_of_mem name member))]
  read_write values readable := by
    simp [readEntry, rest.read_cons fresh, codec.read_write _ readable.1,
      rest.read_write _ readable.2]
  read_unreadable values unreadable := by
    by_cases first : codec.Readable values.1
    · have others := rest.read_unreadable values.2 (fun readable => unreadable ⟨first, readable⟩)
      simp [rest.read_cons fresh, others]
    · simp [readEntry, codec.read_unreadable _ first]

@[simp] theorem names_field (name : String) (codec : Codec Value) (rest : Fields Other)
    (fresh : name ∉ rest.names) : (field name codec rest fresh).names = name :: rest.names :=
  rfl

@[simp] theorem readable_nothing (value : Unit) : nothing.Readable value := trivial

@[simp] theorem readable_field (name : String) (codec : Codec Value) (rest : Fields Other)
    (fresh : name ∉ rest.names) (values : Value × Other) :
    (field name codec rest fresh).Readable values ↔
      codec.Readable values.1 ∧ rest.Readable values.2 :=
  Iff.rfl

end Fields

/-! ## Enumerations with contents -/

/-- The variants of an enumeration, each a name and what stands under it. -/
structure Variants (Value : Type) where
  names : List String
  write : Value → String × Json
  read : String → Json → Option Value
  Readable : Value → Prop
  named : ∀ value, (write value).1 ∈ names
  read_write : ∀ value, Readable value → read (write value).1 (write value).2 = some value
  read_unreadable : ∀ value, ¬Readable value → read (write value).1 (write value).2 = none

namespace Variants

variable {Value Other : Type}

def nothing : Variants Empty where
  names := []
  write value := nomatch value
  read _ _ := none
  Readable value := nomatch value
  named value := nomatch value
  read_write value := nomatch value
  read_unreadable value := nomatch value

@[simp] theorem names_nothing : nothing.names = [] := rfl

def variant (name : String) (codec : Codec Value) (rest : Variants Other)
    (fresh : name ∉ rest.names := by simp) : Variants (Value ⊕ Other) where
  names := name :: rest.names
  write
    | .inl value => (name, codec.write value)
    | .inr other => rest.write other
  read found document :=
    if found = name then (codec.read document).map .inl else (rest.read found document).map .inr
  Readable
    | .inl value => codec.Readable value
    | .inr other => rest.Readable other
  named
    | .inl value => List.mem_cons_self
    | .inr other => List.mem_cons_of_mem name (rest.named other)
  read_write value readable := by
    cases value with
    | inl value => simp [codec.read_write value readable]
    | inr other =>
        have different : (rest.write other).1 ≠ name := fun same => fresh (same ▸ rest.named other)
        simp [different, rest.read_write other readable]
  read_unreadable value unreadable := by
    cases value with
    | inl value => simp [codec.read_unreadable value unreadable]
    | inr other =>
        have different : (rest.write other).1 ≠ name := fun same => fresh (same ▸ rest.named other)
        simp [different, rest.read_unreadable other unreadable]

@[simp] theorem names_variant (name : String) (codec : Codec Value) (rest : Variants Other)
    (fresh : name ∉ rest.names) : (variant name codec rest fresh).names = name :: rest.names :=
  rfl

@[simp] theorem readable_inl (name : String) (codec : Codec Value) (rest : Variants Other)
    (fresh : name ∉ rest.names) (value : Value) :
    (variant name codec rest fresh).Readable (.inl value) ↔ codec.Readable value :=
  Iff.rfl

@[simp] theorem readable_inr (name : String) (codec : Codec Value) (rest : Variants Other)
    (fresh : name ∉ rest.names) (other : Other) :
    (variant name codec rest fresh).Readable (.inr other) ↔ rest.Readable other :=
  Iff.rfl

end Variants

namespace Codec

variable {Value Other : Type}

/-- A record as an object; entries under other names are ignored. -/
def record (fields : Fields Other) (into : Value → Other) (back : Other → Value)
    (back_into : ∀ value, back (into value) = value) : Codec Value where
  write value := .object (fields.write (into value))
  read
    | .object entries => (fields.read entries).map back
    | _ => none
  Readable value := fields.Readable (into value)
  read_write value readable := by simp [fields.read_write _ readable, back_into]
  read_unreadable value unreadable := by simp [fields.read_unreadable _ unreadable]

/-- A variant as an object of one entry. -/
def tagged (variants : Variants Other) (into : Value → Other) (back : Other → Value)
    (back_into : ∀ value, back (into value) = value) : Codec Value where
  write value := .object [variants.write (into value)]
  read
    | .object [(name, document)] => (variants.read name document).map back
    | _ => none
  Readable value := variants.Readable (into value)
  read_write value readable := by simp [variants.read_write _ readable, back_into]
  read_unreadable value unreadable := by simp [variants.read_unreadable _ unreadable]

theorem notNull_text : text.NotNull := fun _ => Json.noConfusion

theorem NotNull.via {codec : Codec Other} (notNull : codec.NotNull) (into : Value → Other)
    (back : Other → Option Value) (back_into : ∀ value, back (into value) = some value) :
    (codec.via into back back_into).NotNull :=
  fun value => notNull (into value)

theorem notNull_record (fields : Fields Other) (into : Value → Other) (back : Other → Value)
    (back_into : ∀ value, back (into value) = value) :
    (record fields into back back_into).NotNull :=
  fun _ => Json.noConfusion

theorem notNull_tagged (variants : Variants Other) (into : Value → Other) (back : Other → Value)
    (back_into : ∀ value, back (into value) = value) :
    (tagged variants into back back_into).NotNull :=
  fun _ => Json.noConfusion

/-! ## What is read back -/

@[simp] theorem readable_text (value : String) : text.Readable value := trivial

@[simp] theorem readable_natural (value : Nat) : natural.Readable value := trivial

@[simp] theorem readable_real (value : Rat) : real.Readable value := trivial

@[simp] theorem readable_float (value : Option Rat) : float.Readable value ↔ value.isSome = true :=
  Iff.rfl

@[simp] theorem readable_via (codec : Codec Other) (into : Value → Other)
    (back : Other → Option Value) (back_into : ∀ value, back (into value) = some value)
    (value : Value) : (codec.via into back back_into).Readable value ↔ codec.Readable (into value) :=
  Iff.rfl

@[simp] theorem readable_enumeration (name : Value → String) (values : List Value)
    (found : ∀ value, values.find? (fun other => name other = name value) = some value)
    (value : Value) : (enumeration name values found).Readable value :=
  trivial

@[simp] theorem readable_optional (codec : Codec Value) (notNull : codec.NotNull)
    (value : Option Value) :
    (codec.optional notNull).Readable value ↔ ∀ inner ∈ value, codec.Readable inner :=
  Iff.rfl

@[simp] theorem readable_array (codec : Codec Value) (values : List Value) :
    codec.array.Readable values ↔ ∀ value ∈ values, codec.Readable value :=
  Iff.rfl

@[simp] theorem readable_dictionary (codec : Codec Value) (values : List (String × Value)) :
    codec.dictionary.Readable values ↔ ∀ entry ∈ values, codec.Readable entry.2 :=
  Iff.rfl

@[simp] theorem readable_pair (first : Codec Value) (second : Codec Other)
    (values : Value × Other) :
    (first.pair second).Readable values ↔ first.Readable values.1 ∧ second.Readable values.2 :=
  Iff.rfl

@[simp] theorem readable_record (fields : Fields Other) (into : Value → Other)
    (back : Other → Value) (back_into : ∀ value, back (into value) = value) (value : Value) :
    (record fields into back back_into).Readable value ↔ fields.Readable (into value) :=
  Iff.rfl

@[simp] theorem readable_tagged (variants : Variants Other) (into : Value → Other)
    (back : Other → Value) (back_into : ∀ value, back (into value) = value) (value : Value) :
    (tagged variants into back back_into).Readable value ↔ variants.Readable (into value) :=
  Iff.rfl

end Codec

end Npt.Core
