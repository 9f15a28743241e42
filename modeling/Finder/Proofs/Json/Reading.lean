import Finder.Json.Record
import Finder.Proofs.Json.Written
import Finder.Proofs.Lists
import Mathlib.Data.List.Pairwise

namespace Finder.Json

-- The code of a control character is no half of a pair.
theorem textFrom_control (code : Nat) (hcode : code < 0x20) (rest : List Unit16) :
    StringLiteral.textFrom .closed (.code code :: rest) =
      (StringLiteral.textFrom .closed rest).map (Char.ofNat code :: ·) := by
  have htrailing : ¬0xDC00 ≤ code := by omega
  have hleading : ¬0xD800 ≤ code := by omega
  rw [StringLiteral.textFrom.eq_def]
  simp [StringLiteral.isTrailing, StringLiteral.isLeading, htrailing, hleading]

theorem textFrom_units (value : List Char) :
    StringLiteral.textFrom .closed (value.map unitOf) = .ok value := by
  induction value with
  | nil => rfl
  | cons c rest ih =>
      rw [List.map_cons, unitOf]
      split
      · next hc =>
        rw [textFrom_control c.toNat hc.1, ih, Char.ofNat_toNat]
        rfl
      · rw [StringLiteral.textFrom, ih]
        rfl

theorem text_literalOf (value : String) : (literalOf value).text = .ok value := by
  rw [StringLiteral.text, literalOf, textFrom_units]
  simp [Except.map]

theorem valueOf_digitsOf (n : Nat) : NumberLiteral.valueOf (digitsOf n) = n := by
  have hdigits := Nat.ofDigitChars_ten_toDigits (n := n)
  rw [Nat.ofDigitChars_eq_foldl] at hdigits
  rw [NumberLiteral.valueOf, digitsOf, List.foldl_map]
  simpa [Nat.mul_comm] using hdigits

-- Whole numbers of 64 bits are read exactly.
theorem value_numeralOf (n : Nat) (hn : n ≤ NumberLiteral.greatestSignificand) :
    (numeralOf n).value = .ok (.integer n) := by
  have hvalue := valueOf_digitsOf n
  simp [NumberLiteral.value, NumberLiteral.isWhole, numeralOf, hvalue, hn]

theorem readText_text (value : String) : readText (Tree.text value).draft = .ok value := by
  rw [Tree.draft, readText, text_literalOf]
  rfl

theorem readOptional_text (value : String) :
    readOptional readText (Tree.text value).draft = .ok (some value) := by
  have hread := readText_text value
  rw [Tree.draft] at hread ⊢
  rw [readOptional, hread]
  · rfl
  · simp

theorem readList_of_forall₂ {α : Type} (read : Reader α) (values : List α) (items : List Tree)
    (h : List.Forall₂ (fun value item => read item.draft = .ok value) values items) :
    readList read (Tree.list items).draft = .ok values := by
  have hitems : readItems read .closed (Tree.draftItems items) = .ok values := by
    induction h with
    | nil => rfl
    | cons hfirst _ ih =>
        rw [Tree.draftItems, readItems, hfirst, ih]
        rfl
  rw [Tree.draft, readList]
  exact hitems

-- The member for a value that may be absent, which is then left out or null.
inductive OptionalAs (key : String) : Option String → List (String × Tree) → Prop
  | leftOut : OptionalAs key none []
  | null : OptionalAs key none [(key, .null)]
  | present (value : String) : OptionalAs key (some value) [(key, .text value)]

namespace Field

variable {σ β γ : Type}

-- A field that was read is known to have been.
def Sets (field : Field σ) : Prop :=
  ∀ collected draft next, field.read collected draft = .ok next → field.isSet next

-- Fields of which neither looks at what the other reads.
structure Apart (first second : Field σ) : Prop where
  isSet_first : ∀ collected draft next, second.read collected draft = .ok next →
    first.isSet next = first.isSet collected
  isSet_second : ∀ collected draft next, first.read collected draft = .ok next →
    second.isSet next = second.isSet collected
  comm : ∀ collected draft other next last, first.read collected draft = .ok next →
    second.read next other = .ok last →
      ∃ between, second.read collected other = .ok between ∧ first.read between draft = .ok last
  comm_symm : ∀ collected draft other next last, second.read collected draft = .ok next →
    first.read next other = .ok last →
      ∃ between, first.read collected other = .ok between ∧ second.read between draft = .ok last

instance : Std.Symm (@Apart σ) where
  symm _ _ h := ⟨h.isSet_second, h.isSet_first, h.comm_symm, h.comm⟩

-- The field reads a value, whatever was read before, and puts it in a place of its own.
def Puts (field : Field σ) (read : Reader β) (put : σ → β → σ) : Prop :=
  ∀ collected draft, field.read collected draft = read draft >>= fun value =>
    pure (put collected value)

theorem Puts.eq_ok_iff {field : Field σ} {read : Reader β} {put : σ → β → σ}
    (h : field.Puts read put) (collected : σ) (draft : Draft) (next : σ) :
    field.read collected draft = .ok next ↔
      ∃ value, read draft = .ok value ∧ put collected value = next := by
  rw [h, except_bind_eq_ok]
  simp [pure, Except.pure]

theorem Puts.sets {field : Field σ} {read : Reader β} {put : σ → β → σ} (h : field.Puts read put)
    (hset : ∀ collected value, field.isSet (put collected value)) : field.Sets := by
  intro collected draft next hread
  obtain ⟨value, _, rfl⟩ := (h.eq_ok_iff ..).mp hread
  exact hset collected value

theorem Puts.comm {first second : Field σ} {read : Reader β} {read' : Reader γ}
    {put : σ → β → σ} {put' : σ → γ → σ} (hfirst : first.Puts read put)
    (hsecond : second.Puts read' put')
    (hcomm : ∀ collected value value', put' (put collected value) value' =
      put (put' collected value') value) (collected : σ) (draft other : Draft) (next last : σ)
    (hread : first.read collected draft = .ok next) (hread' : second.read next other = .ok last) :
    ∃ between, second.read collected other = .ok between ∧ first.read between draft = .ok last := by
  obtain ⟨value, hvalue, rfl⟩ := (hfirst.eq_ok_iff ..).mp hread
  obtain ⟨value', hvalue', rfl⟩ := (hsecond.eq_ok_iff ..).mp hread'
  have hbetween := (hsecond.eq_ok_iff collected other _).mpr ⟨value', hvalue', rfl⟩
  have hlast := (hfirst.eq_ok_iff (put' collected value') draft _).mpr ⟨value, hvalue, rfl⟩
  exact ⟨put' collected value', hbetween, by rw [hlast, hcomm]⟩

theorem Puts.apart {first second : Field σ} {read : Reader β} {read' : Reader γ}
    {put : σ → β → σ} {put' : σ → γ → σ} (hfirst : first.Puts read put)
    (hsecond : second.Puts read' put')
    (hset : ∀ collected value, first.isSet (put' collected value) = first.isSet collected)
    (hset' : ∀ collected value, second.isSet (put collected value) = second.isSet collected)
    (hcomm : ∀ collected value value', put' (put collected value) value' =
      put (put' collected value') value) : first.Apart second := by
  constructor
  case isSet_first =>
    intro collected draft next hread
    obtain ⟨value, _, rfl⟩ := (hsecond.eq_ok_iff ..).mp hread
    exact hset collected value
  case isSet_second =>
    intro collected draft next hread
    obtain ⟨value, _, rfl⟩ := (hfirst.eq_ok_iff ..).mp hread
    exact hset' collected value
  case comm => exact hfirst.comm hsecond hcomm
  case comm_symm => exact hsecond.comm hfirst fun collected value value' =>
    (hcomm collected value' value).symm

end Field

namespace RecordForm

variable {σ α : Type}

-- A member with the name of a field that is not read yet.
theorem collectMembers_field (form : RecordForm σ α) (ending : ObjectEnd) (collected next : σ)
    (key : String) (value : Draft) (rest : List (StringLiteral × Draft)) (field : Field σ)
    (hfield : form.field? key = some field) (hset : field.isSet collected = false)
    (hread : field.read collected value = .ok next) :
    form.collectMembers ending collected ((literalOf key, value) :: rest) =
      form.collectMembers ending next rest := by
  have hmember : form.collectMember collected key value = .ok next := by
    simp [collectMember, hfield, hset, hread]
  rw [collectMembers, text_literalOf]
  simp only [Fault.raise, bind, Except.bind, hmember]

-- A value that may be absent is read as it is, in whichever way it is left out.
theorem exists_slot {form : RecordForm σ α} {key : String}
    {value : Option String} {members : List (String × Tree)} (h : OptionalAs key value members)
    (field : Field σ) (collected : σ) (put : Option (Option String) → σ)
    (hfield : form.field? key = some field) (hset : field.isSet collected = false)
    (hnone : put none = collected)
    (hread : ∀ draft, field.read collected draft =
      (readOptional readText draft).map fun found => put (some found))
    (ending : ObjectEnd) (rest : List (StringLiteral × Draft)) :
    ∃ slot, slot.getD none = value ∧
      form.collectMembers ending collected (Tree.draftMembers members ++ rest) =
        form.collectMembers ending (put slot) rest := by
  cases h with
  | leftOut => exact ⟨none, rfl, by rw [hnone]; rfl⟩
  | null =>
      have hnull : field.read collected Tree.null.draft = .ok (put (some none)) := by
        rw [hread]
        rfl
      exact ⟨some none, rfl, form.collectMembers_field ending collected _ key _ rest field hfield
        hset hnull⟩
  | present value =>
      have hvalue : field.read collected (Tree.text value).draft = .ok (put (some (some value))) := by
        rw [hread, readOptional_text]
        rfl
      exact ⟨some (some value), rfl, form.collectMembers_field ending collected _ key _ rest field
        hfield hset hvalue⟩

structure Separate (form : RecordForm σ α) : Prop where
  sets : ∀ field ∈ form.fields, field.Sets
  apart : form.fields.Pairwise Field.Apart

theorem field?_eq_some (form : RecordForm σ α) (name : String) (field : Field σ)
    (h : form.field? name = some field) : field ∈ form.fields ∧ field.name = name :=
  ⟨List.mem_of_find?_eq_some h, by simpa using List.find?_some h⟩

theorem collectMember_eq_ok_iff (form : RecordForm σ α) (collected : σ) (name : String)
    (value : Draft) (next : σ) :
    form.collectMember collected name value = .ok next ↔
      form.field? name = none ∧ value.skipFault? = none ∧ next = collected ∨
      ∃ field, form.field? name = some field ∧ field.isSet collected = false ∧
        field.read collected value = .ok next := by
  rw [collectMember]
  cases form.field? name with
  | none =>
      have hkept : collected = next ↔ next = collected := eq_comm
      cases value.skipFault? <;> simp [Fault.check, Except.map, hkept]
  | some field => cases hset : field.isSet collected <;> simp [hset]

-- Two members that are taken one after the other may be taken the other way round.
theorem collectMember_comm {form : RecordForm σ α} (hform : form.Separate)
    {collected next last : σ} {name name' : String} {value value' : Draft}
    (hfirst : form.collectMember collected name value = .ok next)
    (hsecond : form.collectMember next name' value' = .ok last) :
    ∃ between, form.collectMember collected name' value' = .ok between ∧
      form.collectMember between name value = .ok last := by
  simp only [collectMember_eq_ok_iff] at hfirst hsecond ⊢
  rcases hfirst with ⟨hnone, hskip, rfl⟩ | ⟨field, hfield, hset, hread⟩
  · exact ⟨last, hsecond, .inl ⟨hnone, hskip, rfl⟩⟩
  rcases hsecond with ⟨hnone, hskip, rfl⟩ | ⟨field', hfield', hset', hread'⟩
  · exact ⟨collected, .inl ⟨hnone, hskip, rfl⟩, .inr ⟨field, hfield, hset, hread⟩⟩
  obtain ⟨hmem, rfl⟩ := form.field?_eq_some _ _ hfield
  obtain ⟨hmem', rfl⟩ := form.field?_eq_some _ _ hfield'
  have hne : field ≠ field' := by
    rintro rfl
    have hagain := hform.sets field hmem collected value next hread
    rw [hset'] at hagain
    cases hagain
  have hapart := hform.apart.forall hmem hmem' hne
  obtain ⟨between, hbetween, hlast⟩ :=
    hapart.comm collected value value' next last hread hread'
  have hunset : field'.isSet collected = false := by
    rw [← hapart.isSet_second collected value next hread, hset']
  have hstill : field.isSet between = false := by
    rw [hapart.isSet_first collected value' between hbetween, hset]
  exact ⟨between, .inr ⟨field', hfield', hunset, hbetween⟩, .inr ⟨field, hfield, hstill, hlast⟩⟩

theorem collectMembers_cons_eq_ok_iff (form : RecordForm σ α) (ending : ObjectEnd)
    (collected : σ) (key : StringLiteral) (value : Draft) (rest : List (StringLiteral × Draft))
    (result : σ) :
    form.collectMembers ending collected ((key, value) :: rest) = .ok result ↔
      ∃ name next, key.text = .ok name ∧ form.collectMember collected name value = .ok next ∧
        form.collectMembers ending next rest = .ok result := by
  rw [collectMembers, except_bind_eq_ok]
  simp only [except_bind_eq_ok]
  cases key.text <;> simp [Fault.raise]

-- A record that is read is read alike in any order of its members.
theorem collectMembers_perm {form : RecordForm σ α} (hform : form.Separate) (ending : ObjectEnd)
    {members others : List (StringLiteral × Draft)} (hperm : members.Perm others)
    (collected result : σ) (h : form.collectMembers ending collected members = .ok result) :
    form.collectMembers ending collected others = .ok result := by
  induction hperm generalizing collected with
  | nil => exact h
  | cons member _ ih =>
      obtain ⟨name, next, hname, hnext, hrest⟩ := (collectMembers_cons_eq_ok_iff ..).mp h
      exact (collectMembers_cons_eq_ok_iff ..).mpr ⟨name, next, hname, hnext, ih next hrest⟩
  | swap first second rest =>
      obtain ⟨name, next, hname, hnext, h⟩ := (collectMembers_cons_eq_ok_iff ..).mp h
      obtain ⟨name', last, hname', hlast, hrest⟩ := (collectMembers_cons_eq_ok_iff ..).mp h
      obtain ⟨between, hbetween, hagain⟩ := collectMember_comm hform hnext hlast
      refine (collectMembers_cons_eq_ok_iff ..).mpr ⟨name', between, hname', hbetween, ?_⟩
      exact (collectMembers_cons_eq_ok_iff ..).mpr ⟨name, last, hname, hagain, hrest⟩
  | trans _ _ ih ih' => exact ih' collected (ih collected h)

-- Members in any order are read as they are in the order of writing.
theorem read_object_of_perm {form : RecordForm σ α} (hform : form.Separate)
    {members others : List (String × Tree)} (hperm : members.Perm others) (result : α)
    (h : form.read (Tree.object others).draft = .ok result) :
    form.read (Tree.object members).draft = .ok result := by
  obtain ⟨collected, hcollected, hresult⟩ := (except_bind_eq_ok ..).mp h
  refine (except_bind_eq_ok ..).mpr ⟨collected, ?_, hresult⟩
  rw [Tree.draft, Tree.draftMembers_eq_map] at hcollected ⊢
  exact collectMembers_perm hform .closed (hperm.symm.map _) form.start collected
    hcollected

end RecordForm

end Finder.Json
