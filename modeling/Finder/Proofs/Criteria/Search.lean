import Finder.Proofs.Criteria.Cuttings

namespace Finder

-- A property spelt like the word with a small start or, where there is none, one that differs from
-- the word in the first letter only.
def Declarations.Names (declared : Declarations) (entity : String) (word : List Char)
    (found : OwnedProperty) : Prop :=
  declared.property? entity (String.ofList (decapitalize word)) = some found ∨
    declared.property? entity (String.ofList (decapitalize word)) = none ∧
      declared.property? entity (String.ofList (smallFirst word)) = some found

-- Pieces that lead to a property: each but the last names a reference, and the next one is looked
-- up on the entity that it refers to.
inductive Declarations.Leads (declared : Declarations) :
    String → List (List Char) → List OwnedProperty → Prop
  | last {entity : String} {piece : List Char} {found : OwnedProperty}
      (names : declared.Names entity piece found) : Leads declared entity [piece] [found]
  | step {entity target : String} {piece : List Char} {pieces : List (List Char)}
      {found : OwnedProperty} {later : List OwnedProperty}
      (names : declared.Names entity piece found)
      (refers : found.property.type = .entity target) (rest : Leads declared target pieces later) :
      Leads declared entity (piece :: pieces) (found :: later)

structure Declarations.Admissible (declared : Declarations) (entity : String) (part : List Char)
    (pieces : List (List Char)) (found : List OwnedProperty) : Prop where
  cuts : Cuts part pieces
  leads : declared.Leads entity pieces found

-- The predicate compares the last of the properties, and the others are on its path.
structure Predicate.Follows (predicate : Predicate) (found : List OwnedProperty) : Prop where
  path_eq : predicate.path = found.map fun property => property.property.name
  leaf_eq : ∃ leaf ∈ found.getLast?,
    predicate.type = leaf.property.type ∧ predicate.owner = leaf.owner

-- The outcome of a search among ways of cutting: the predicate of a way whose list of lengths comes
-- after those of all others, or nothing where there is no way.
inductive Chosen (offered : List (List Char) → List OwnedProperty → Prop) : Option Predicate → Prop
  | nothing (none_offered : ∀ pieces found, ¬offered pieces found) : Chosen offered none
  | greatest (pieces : List (List Char)) (found : List OwnedProperty) (predicate : Predicate)
      (offers : offered pieces found) (follows : predicate.Follows found)
      (greater : ∀ other later, offered other later →
        other = pieces ∨ lengths other < lengths pieces) : Chosen offered (some predicate)

theorem Predicate.follows_ofProperty (found : OwnedProperty) :
    (Predicate.ofProperty found).Follows [found] :=
  ⟨rfl, found, rfl, rfl, rfl⟩

theorem Predicate.Follows.under {predicate : Predicate} {found : List OwnedProperty}
    (h : predicate.Follows found) (property : OwnedProperty) :
    (predicate.under property).Follows (property :: found) := by
  obtain ⟨leaf, hleaf, htype, howner⟩ := h.leaf_eq
  refine ⟨by rw [Predicate.under, h.path_eq, List.map_cons], leaf, ?_, htype, howner⟩
  rw [List.getLast?_cons, Option.mem_def.mp hleaf]
  rfl

namespace Chosen

variable {first second : List (List Char) → List OwnedProperty → Prop}

theorem congr {result : Option Predicate} (h : Chosen first result)
    (hsame : ∀ pieces found, first pieces found ↔ second pieces found) : Chosen second result := by
  have heq : first = second := by
    funext pieces found
    exact propext (hsame pieces found)
  exact heq ▸ h

-- What is offered first is taken first, if it is greater than all that is offered second.
theorem or {result next : Option Predicate} (h : Chosen first result) (h' : Chosen second next)
    (hless : ∀ pieces found other later, first pieces found → second other later →
      lengths other < lengths pieces) :
    Chosen (fun pieces found => first pieces found ∨ second pieces found) (result.or next) := by
  cases h with
  | nothing hnone =>
      rw [Option.none_or]
      refine h'.congr fun pieces found => ?_
      rw [or_iff_right (hnone pieces found)]
  | greatest pieces found predicate hoffers hfollows hgreater =>
      refine .greatest pieces found predicate (.inl hoffers) hfollows ?_
      intro other later ho
      cases ho with
      | inl ho => exact hgreater other later ho
      | inr ho => exact .inr (hless pieces found other later hoffers ho)

theorem findSome? {α : Type} (list : List α) (f : α → Option Predicate)
    (offered : α → List (List Char) → List OwnedProperty → Prop)
    (h : ∀ a ∈ list, Chosen (offered a) (f a))
    (hless : list.Pairwise fun a b => ∀ pieces found other later,
      offered a pieces found → offered b other later → lengths other < lengths pieces) :
    Chosen (fun pieces found => ∃ a ∈ list, offered a pieces found) (list.findSome? f) := by
  induction list with
  | nil => exact .nothing (by simp)
  | cons a rest ih =>
      rw [List.pairwise_cons] at hless
      rw [List.forall_mem_cons] at h
      have hrest := h.1.or (ih h.2 hless.2) (by
        intro pieces found other later ho hrest
        obtain ⟨b, hb, ho'⟩ := hrest
        exact hless.1 b hb pieces found other later ho ho')
      have heq : (a :: rest).findSome? f = (f a).or (rest.findSome? f) := by
        rw [List.findSome?_cons]
        cases f a <;> rfl
      rw [heq]
      refine hrest.congr fun pieces found => ?_
      simp only [List.mem_cons, exists_eq_or_imp]

-- The greatest way of cutting the rest stays the greatest behind a head.
theorem under {result : Option Predicate} (h : Chosen first result) (head : List Char)
    (property : OwnedProperty) :
    Chosen (fun pieces found => ∃ later behind, pieces = head :: later ∧ found = property :: behind ∧
      first later behind) (result.map (.under property)) := by
  cases h with
  | nothing hnone =>
      refine .nothing ?_
      intro pieces found hoffered
      obtain ⟨later, behind, _, _, ho⟩ := hoffered
      exact hnone later behind ho
  | greatest pieces found predicate hoffers hfollows hgreater =>
      refine .greatest (head :: pieces) (property :: found) _ ⟨pieces, found, rfl, rfl, hoffers⟩
        (hfollows.under property) ?_
      rintro _ _ ⟨other, behind, rfl, _, ho⟩
      rcases hgreater other behind ho with rfl | hless
      · exact .inl rfl
      · exact .inr (lengths_cons_lt head pieces other hless)

end Chosen

namespace Declarations

variable {declared : Declarations}

theorem names_iff (entity : String) (word : List Char) (found : OwnedProperty) :
    declared.Names entity word found ↔ declared.named? entity word = some found :=
  (declared.named?_eq_some_iff entity word found).symm

theorem reference?_eq_some_iff (entity : String) (word : List Char) (found : OwnedProperty)
    (target : String) :
    declared.reference? entity word = some (found, target) ↔
      declared.Names entity word found ∧ found.property.type = .entity target := by
  rw [names_iff]
  constructor
  · exact declared.reference?_eq_some entity word found target
  · intro hrefers
    obtain ⟨hnamed, htype⟩ := hrefers
    rw [reference?, hnamed, Option.bind_some, htype]
    rfl

-- With pieces left to look up, the first piece has to be a reference.
theorem leads_cons_iff (entity : String) (piece : List Char) (pieces : List (List Char))
    (found : List OwnedProperty) (hne : pieces ≠ []) :
    declared.Leads entity (piece :: pieces) found ↔ ∃ property target later,
      declared.reference? entity piece = some (property, target) ∧ found = property :: later ∧
        declared.Leads target pieces later := by
  simp only [reference?_eq_some_iff]
  constructor
  · intro h
    cases h with
    | last names => exact absurd rfl hne
    | @step _ target _ _ property later names refers rest =>
        exact ⟨property, target, later, ⟨names, refers⟩, rfl, rest⟩
  · rintro ⟨property, target, later, ⟨names, refers⟩, rfl, rest⟩
    exact .step names refers rest

theorem leads_singleton_iff (entity : String) (piece : List Char) (found : List OwnedProperty) :
    declared.Leads entity [piece] found ↔
      ∃ property, declared.Names entity piece property ∧ found = [property] := by
  constructor
  · intro h
    cases h with
    | @last _ _ property names => exact ⟨property, names, rfl⟩
    | step names refers rest => cases rest
  · rintro ⟨property, names, rfl⟩
    exact .last names

end Declarations

section

variable (declared : Declarations)

theorem chosen_named (entity : String) (part : List Char) :
    Chosen (fun pieces found => pieces = [part] ∧ declared.Leads entity pieces found)
      ((declared.named? entity part).map .ofProperty) := by
  cases hnamed : declared.named? entity part with
  | none =>
      refine .nothing ?_
      rintro _ found ⟨rfl, hleads⟩
      obtain ⟨property, hnames, _⟩ := (Declarations.leads_singleton_iff _ _ _).mp hleads
      rw [Declarations.names_iff, hnamed] at hnames
      cases hnames
  | some property =>
      have hnames := (Declarations.names_iff entity part property).mpr hnamed
      exact .greatest [part] [property] _ ⟨rfl, .last hnames⟩
        (Predicate.follows_ofProperty property) fun other later ho => .inl ho.1

theorem chosen_step (entity : String) (head tail : List Char)
    (hrest : ∀ target, Chosen (declared.Admissible target tail) (resolvePart declared target tail)) :
    Chosen (fun pieces found => ∃ later, pieces = head :: later ∧ Cuts tail later ∧
      declared.Leads entity pieces found) (declared.step? entity head tail) := by
  -- What is offered goes through the one reference that the head names.
  have hoffered (pieces : List (List Char)) (found : List OwnedProperty) :
      (∃ later, pieces = head :: later ∧ Cuts tail later ∧ declared.Leads entity pieces found) ↔
        ∃ property target, declared.reference? entity head = some (property, target) ∧
          ∃ later behind, pieces = head :: later ∧ found = property :: behind ∧
            declared.Admissible target tail later behind := by
    constructor
    · rintro ⟨later, rfl, hcuts, hleads⟩
      obtain ⟨property, target, behind, href, hfound, hl⟩ :=
        (Declarations.leads_cons_iff _ _ _ _ hcuts.ne_nil).mp hleads
      exact ⟨property, target, href, later, behind, rfl, hfound, hcuts, hl⟩
    · rintro ⟨property, target, href, later, behind, rfl, hfound, hcuts, hl⟩
      exact ⟨later, rfl, hcuts, (Declarations.leads_cons_iff _ _ _ _ hcuts.ne_nil).mpr
        ⟨property, target, behind, href, hfound, hl⟩⟩
  refine Chosen.congr ?_ fun pieces found => (hoffered pieces found).symm
  rw [Declarations.step?]
  cases href : declared.reference? entity head with
  | none => exact .nothing (by simp)
  | some reference =>
      obtain ⟨property, target⟩ := reference
      have hunder := (hrest target).under head property
      refine hunder.congr fun pieces found => ?_
      constructor
      · intro h
        exact ⟨property, target, rfl, h⟩
      · intro hother
        obtain ⟨other, leads, hr, h⟩ := hother
        obtain ⟨rfl, rfl⟩ := Prod.mk.inj (Option.some.inj hr)
        exact h

-- A longer head comes before a shorter one, whatever is left of the part behind it.
theorem chosen_cuts (entity : String) (part : List Char)
    (hrest : ∀ cut ∈ capitalCuts [] part, ∀ target,
      Chosen (declared.Admissible target cut.2) (resolvePart declared target cut.2)) :
    Chosen (fun pieces found => ∃ cut ∈ (capitalCuts [] part).reverse, ∃ later,
        pieces = cut.1.reverse :: later ∧ Cuts cut.2 later ∧ declared.Leads entity pieces found)
      ((capitalCuts [] part).reverse.findSome? fun cut =>
        declared.step? entity cut.1.reverse cut.2) := by
  apply Chosen.findSome?
  · intro cut hcut
    exact chosen_step declared entity cut.1.reverse cut.2 (hrest cut (List.mem_reverse.mp hcut))
  · rw [List.pairwise_reverse]
    refine (capitalCuts_ascending [] part).imp ?_
    rintro cut next hless _ _ _ _ ⟨later, rfl, _⟩ ⟨other, rfl, _⟩
    exact lengths_lt_of_head _ _ _ _ (by simpa using hless)

end

-- No property has an empty name, so that no piece between underscores can be empty.
theorem Schema.not_names_nil (schema : Schema) (entity : String) (found : OwnedProperty) :
    ¬schema.Names entity [] found := by
  have hnone : schema.property? entity "" ≠ some found := by
    intro hfound
    exact name_ne_empty schema entity "" found hfound (schema.property?_eq_some _ _ _ hfound).1
  intro hnames
  cases hnames with
  | inl hfound => exact hnone hfound
  | inr hfound => exact hnone hfound.2

theorem Schema.not_leads_nil (schema : Schema) (entity : String) (pieces : List (List Char))
    (found : List OwnedProperty) : ¬schema.Leads entity ([] :: pieces) found := by
  intro hleads
  cases hleads with
  | last hnames => exact schema.not_names_nil entity _ hnames
  | step hnames _ _ => exact schema.not_names_nil entity _ hnames

theorem Schema.admissible_append_iff (schema : Schema) (entity : String) (head tail : List Char)
    (h : '_' ∉ head) (pieces : List (List Char)) (found : List OwnedProperty) :
    schema.Admissible entity (head ++ '_' :: tail) pieces found ↔
      ∃ later, pieces = head :: later ∧ Cuts tail later ∧ schema.Leads entity pieces found := by
  constructor
  · intro hadmissible
    obtain ⟨_, later, hpieces, hcuts⟩ := (cuts_append_iff head tail h pieces).mp hadmissible.cuts
    exact ⟨later, hpieces, hcuts, hadmissible.leads⟩
  · rintro ⟨later, rfl, hcuts, hleads⟩
    have hne : head ≠ [] := by
      intro hnil
      exact schema.not_leads_nil entity later found (hnil ▸ hleads)
    exact ⟨(cuts_append_iff head tail h _).mpr ⟨hne, later, rfl, hcuts⟩, hleads⟩

theorem Declarations.admissible_plain_iff (declared : Declarations) (entity : String)
    (part : List Char) (hne : part ≠ []) (h : '_' ∉ part) (pieces : List (List Char))
    (found : List OwnedProperty) :
    declared.Admissible entity part pieces found ↔
      pieces = [part] ∧ declared.Leads entity pieces found ∨
        ∃ cut ∈ (capitalCuts [] part).reverse, ∃ later, pieces = cut.1.reverse :: later ∧
          Cuts cut.2 later ∧ declared.Leads entity pieces found := by
  constructor
  · intro hadmissible
    have hleads := hadmissible.leads
    rcases (cuts_plain_iff part h pieces).mp hadmissible.cuts with
      ⟨_, hpieces⟩ | ⟨cut, hcut, later, hpieces, hlater⟩
    · exact .inl ⟨hpieces, hleads⟩
    · exact .inr ⟨cut, hcut, later, hpieces, hlater, hleads⟩
  · intro hoffered
    rcases hoffered with ⟨hpieces, hleads⟩ | ⟨cut, hcut, later, hpieces, hlater, hleads⟩
    · exact ⟨(cuts_plain_iff part h pieces).mpr (.inl ⟨hne, hpieces⟩), hleads⟩
    · exact ⟨(cuts_plain_iff part h pieces).mpr (.inr ⟨cut, hcut, later, hpieces, hlater⟩), hleads⟩

-- By induction on the length, since the part that is left behind a head is shorter.
theorem chosen_resolvePart (schema : Schema) (entity : String) (part : List Char) :
    Chosen (schema.Admissible entity part) (resolvePart schema.toDeclarations entity part) := by
  induction hn : part.length using Nat.strongRecOn generalizing entity part with
  | ind n ih =>
      subst hn
      by_cases hne : part = []
      · subst hne
        rw [resolvePart_nil]
        exact .nothing fun pieces found h => not_cuts_nil pieces h.cuts
      by_cases hunderscore : '_' ∈ part
      · obtain ⟨head, tail, rfl, hhead⟩ := List.eq_append_cons_of_mem hunderscore
        have hshorter : tail.length < (head ++ '_' :: tail).length := by
          rw [List.length_append, List.length_cons]
          omega
        have hstep := chosen_step schema.toDeclarations entity head tail
          fun target => ih tail.length hshorter target tail rfl
        rw [resolvePart_of_underscore _ _ _ head tail (cutAtUnderscore_append head tail hhead)]
        exact hstep.congr fun pieces found =>
          (schema.admissible_append_iff entity head tail hhead pieces found).symm
      · have hwhole := chosen_named schema.toDeclarations entity part
        have hcuts := chosen_cuts schema.toDeclarations entity part (by
          intro cut hcut target
          have hshorter := capitalCuts_shorter (List.mem_reverse.mpr hcut)
          exact ih cut.2.length hshorter target cut.2 rfl)
        rw [resolvePart_of_named _ _ _ hne hunderscore]
        refine (hwhole.or hcuts ?_).congr fun pieces found =>
          (schema.admissible_plain_iff entity part hne hunderscore pieces found).symm
        rintro _ _ _ _ ⟨rfl, _⟩ ⟨cut, hcut, later, rfl, _⟩
        apply lengths_lt_of_head
        rw [List.length_reverse]
        exact capitalCuts_head_shorter part cut (List.mem_reverse.mp hcut)

-- Pieces lead one way only, and a predicate follows what they lead to.
theorem Declarations.Leads.unique {declared : Declarations} {entity : String}
    {pieces : List (List Char)} {found other : List OwnedProperty}
    (h : declared.Leads entity pieces found) (h' : declared.Leads entity pieces other) :
    found = other := by
  induction pieces generalizing entity found other with
  | nil => cases h
  | cons piece pieces ih =>
      by_cases hne : pieces = []
      · subst hne
        obtain ⟨property, hnames, rfl⟩ := (leads_singleton_iff _ _ _).mp h
        obtain ⟨property', hnames', rfl⟩ := (leads_singleton_iff _ _ _).mp h'
        rw [names_iff] at hnames hnames'
        rw [Option.some.inj (hnames.symm.trans hnames')]
      · obtain ⟨property, target, later, href, rfl, hrest⟩ := (leads_cons_iff _ _ _ _ hne).mp h
        obtain ⟨property', target', later', href', rfl, hrest'⟩ :=
          (leads_cons_iff _ _ _ _ hne).mp h'
        obtain ⟨rfl, rfl⟩ := Prod.mk.inj (Option.some.inj (href.symm.trans href'))
        rw [ih hrest hrest']

theorem Predicate.Follows.unique {predicate other : Predicate} {found : List OwnedProperty}
    (h : predicate.Follows found) (h' : other.Follows found) : predicate = other := by
  obtain ⟨leaf, hleaf, htype, howner⟩ := h.leaf_eq
  obtain ⟨leaf', hleaf', htype', howner'⟩ := h'.leaf_eq
  obtain rfl : leaf = leaf' := Option.some.inj (hleaf.symm.trans hleaf')
  have hpath : predicate.path = other.path := h.path_eq.trans h'.path_eq.symm
  cases predicate
  cases other
  rw [Predicate.mk.injEq]
  exact ⟨hpath, htype.trans htype'.symm, howner.trans howner'.symm⟩

theorem Chosen.unique {offered : List (List Char) → List OwnedProperty → Prop}
    (hunique : ∀ pieces found other, offered pieces found → offered pieces other → found = other)
    {result other : Option Predicate} (h : Chosen offered result) (h' : Chosen offered other) :
    result = other := by
  cases h with
  | nothing hnone =>
      cases h' with
      | nothing _ => rfl
      | greatest pieces found _ ho => exact absurd ho (hnone pieces found)
  | greatest pieces found predicate ho hfollows hgreater =>
      cases h' with
      | nothing hnone => exact absurd ho (hnone pieces found)
      | greatest pieces' found' predicate' ho' hfollows' hgreater' =>
          have hsame : pieces = pieces' := by
            rcases hgreater pieces' found' ho' with he | hless
            · exact he.symm
            rcases hgreater' pieces found ho with he | hless'
            · exact he
            · exact absurd hless (List.lt_asymm hless')
          subst hsame
          obtain rfl := hunique pieces found found' ho ho'
          rw [hfollows.unique hfollows']

-- A part is resolved unless no way of cutting it is admissible, and then to the path of the
-- admissible way that has the longer piece wherever it first differs from another.
theorem resolvePart_takes_greatest (schema : Schema) (entity : String) (part : List Char) :
    (resolvePart schema.toDeclarations entity part = none ↔
        ¬∃ pieces found, schema.Admissible entity part pieces found) ∧
      ∀ predicate, resolvePart schema.toDeclarations entity part = some predicate ↔
        ∃ pieces found, schema.Admissible entity part pieces found ∧ predicate.Follows found ∧
          ∀ other later, schema.Admissible entity part other later →
            other = pieces ∨ lengths other < lengths pieces := by
  have hchosen := chosen_resolvePart schema entity part
  have hunique (result : Option Predicate)
      (h : Chosen (schema.Admissible entity part) result) :
      resolvePart schema.toDeclarations entity part = result :=
    hchosen.unique (fun _ _ _ h h' => h.leads.unique h'.leads) h
  constructor
  · constructor
    · intro hnone hsome
      obtain ⟨pieces, found, ho⟩ := hsome
      rw [hnone] at hchosen
      cases hchosen with
      | nothing hnone => exact hnone pieces found ho
    · intro hnone
      exact hunique none (.nothing fun pieces found ho => hnone ⟨pieces, found, ho⟩)
  · intro predicate
    constructor
    · intro hsome
      rw [hsome] at hchosen
      cases hchosen with
      | greatest pieces found _ ho hfollows hgreater =>
          exact ⟨pieces, found, ho, hfollows, hgreater⟩
    · intro hgreatest
      obtain ⟨pieces, found, ho, hfollows, hgreater⟩ := hgreatest
      exact hunique (some predicate) (.greatest pieces found predicate ho hfollows hgreater)

end Finder
