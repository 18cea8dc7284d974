import EntityFinder.Proofs.Finders.Tokens

set_option autoImplicit false

/-!
# Spellings of a property

In a method name a property stands with a capital in front, and as one or as many. Such a spelling
means the first indexed property that has the form of the declared name. Two things get lost on the
way: of the name `s`, in either case, nothing is left, and a capital behind an underscore is taken for
another name.

## Main definitions

* `EntityFinder.Text.capitalized`: a text with its first ASCII letter in upper case.
* `EntityFinder.IsSpelling`: the tokens by which a property may be meant.
* `EntityFinder.EntityMetadata.ResolvesLike`: a token is understood as a declared name.
* `EntityFinder.EntityMetadata.ReadsSpellings`: what becomes of the spellings of a property.

## Main results

* `EntityFinder.Spells.singular_eq`: spellings have the form of the name.
* `EntityFinder.Singularizer.singular_eq_empty`: the names of which nothing is left.
* `EntityFinder.EntityMetadata.readsSpellings`: all spellings of all properties.
-/

namespace EntityFinder

/-! ## Capitals -/

namespace Text

/-- Characters with the first ASCII letter in upper case. -/
def capitalChars : List Char → List Char
  | [] => []
  | c :: cs => if c.isAlpha then c.toUpper :: cs else c :: capitalChars cs

/-- A text with its first ASCII letter in upper case. -/
def capitalized (s : String) : String :=
  String.ofList (capitalChars s.toList)

/-- A capital is a character of identifiers and has the same lower case. -/
lemma toUpper_of_isIdentifierPart {c : Char} (h : isIdentifierPart c = true) :
    isIdentifierPart c.toUpper = true ∧ c.toUpper.toLower = c.toLower :=
  forall_ascii
    (p := fun c => isIdentifierPart c = true →
      isIdentifierPart c.toUpper = true ∧ c.toUpper.toLower = c.toLower)
    (by decide) (toNat_lt_of_isIdentifierPart h) h

/-- A capital in it leaves a text as long as it was. -/
lemma length_capitalChars (cs : List Char) : (capitalChars cs).length = cs.length := by
  induction cs with
  | nil => rfl
  | cons c cs ih =>
    rw [capitalChars]
    split_ifs
    · rfl
    · rw [List.length_cons, ih, List.length_cons]

/-- The characters of identifiers are those of identifiers with a capital. -/
lemma all_isIdentifierPart_capitalChars {cs : List Char}
    (h : ∀ c ∈ cs, isIdentifierPart c = true) : ∀ c ∈ capitalChars cs, isIdentifierPart c = true := by
  induction cs with
  | nil => exact h
  | cons c cs ih =>
    obtain ⟨hc, hcs⟩ := List.forall_mem_cons.mp h
    rw [capitalChars]
    split_ifs
    · exact List.forall_mem_cons.mpr ⟨(toUpper_of_isIdentifierPart hc).1, hcs⟩
    · exact List.forall_mem_cons.mpr ⟨hc, ih hcs⟩

/-- The first character of identifiers is put into lower case by itself. -/
lemma lowerFirstChars_cons {c : Char} (h : isIdentifierPart c = true) (cs : List Char) :
    lowerFirstChars (c :: cs) = c.toLower :: cs := by
  rw [lowerFirstChars, lower_eq_of_isIdentifierPart h, List.singleton_append]

/-- A capital in front is put into lower case again. -/
lemma lowerFirstChars_capitalChars {c : Char} (h : isIdentifierPart c = true) (cs : List Char)
    (hletter : c ≠ '_') (hstart : isIdentifierStart c = true) :
    lowerFirstChars (capitalChars (c :: cs)) = lowerFirstChars (c :: cs) := by
  have halpha : c.isAlpha = true := by
    rw [isIdentifierStart, Bool.or_eq_true, beq_iff_eq] at hstart
    exact hstart.resolve_right hletter
  obtain ⟨hupper, hlower⟩ := toUpper_of_isIdentifierPart h
  rw [capitalChars, if_pos halpha, lowerFirstChars_cons hupper, lowerFirstChars_cons h, hlower]

/-- A capital behind an underscore stays. -/
lemma lowerFirstChars_underscore (cs : List Char) :
    lowerFirstChars (capitalChars ('_' :: cs)) = '_' :: capitalChars cs := by
  rw [capitalChars, if_neg (by decide), lowerFirstChars_cons (by decide)]
  rfl

end Text

/-! ## Forms of names -/

namespace Singularizer

/-- One `s` is taken off the end. -/
lemma dropFinalS_concat (cs : List Char) : dropFinalS (cs ++ ['s']) = cs := by
  rw [dropFinalS, if_pos List.getLast?_concat, List.dropLast_concat]

/-- Nothing else is taken off. -/
lemma dropFinalS_of_ne {cs : List Char} (h : cs.getLast? ≠ some 's') : dropFinalS cs = cs :=
  if_neg h

/-- Nothing is left of a single `s` alone. -/
lemma dropFinalS_eq_nil {cs : List Char} : dropFinalS cs = [] ↔ cs = [] ∨ cs = ['s'] := by
  constructor
  · intro h
    unfold dropFinalS at h
    split_ifs at h with hlast
    · right
      rw [← List.dropLast_append_getLast? _ hlast, h, List.nil_append]
    · exact .inl h
  · rintro (rfl | rfl) <;> rfl

/-- A text without its last character is shorter than any text of its length. -/
lemma dropLast_ne {cs ds : List Char} (hlast : cs.getLast? = some 's')
    (hlength : cs.length = ds.length) : cs.dropLast ≠ ds := by
  rintro rfl
  have hpos : 0 < cs.length := by
    rw [List.length_pos_iff]
    rintro rfl
    cases hlast
  rw [List.length_dropLast] at hlength
  omega

/-- Texts of one length that differ still do so without a final `s`. -/
lemma dropFinalS_inj {cs ds : List Char} (hlength : cs.length = ds.length) :
    dropFinalS cs = dropFinalS ds ↔ cs = ds := by
  refine ⟨fun h => ?_, fun h => h ▸ rfl⟩
  unfold dropFinalS at h
  split_ifs at h with hcs hds hds
  · rw [← List.dropLast_append_getLast? _ hcs, ← List.dropLast_append_getLast? _ hds, h]
  · exact absurd h (dropLast_ne hcs hlength)
  · exact absurd h.symm (dropLast_ne hds hlength.symm)
  · exact h

/-- Names have the same form if they agree in lower case and without a final `s`. -/
lemma singular_eq_iff {name token : String} : suffix.singular token = suffix.singular name ↔
    dropFinalS (Text.lowerFirstChars token.toList) =
      dropFinalS (Text.lowerFirstChars name.toList) := by
  rw [← String.toList_inj]
  simp only [suffix, String.toList_ofList]

/-- Nothing is left of the name `s`, in either case, and of no other one. -/
lemma singular_eq_empty {name : String} (h : Text.isIdentifier name = true) :
    suffix.singular name = "" ↔ name = "s" ∨ name = "S" := by
  obtain ⟨c, cs, hname, hc⟩ := Text.exists_cons_of_isIdentifier h
  have hlower : c.toLower = 's' ↔ c = 's' ∨ c = 'S' :=
    Text.forall_ascii (p := fun c => c.toLower = 's' ↔ c = 's' ∨ c = 'S') (by decide)
      (Text.toNat_lt_of_isIdentifierPart hc)
  have hform : (suffix.singular name).toList = dropFinalS (c.toLower :: cs) := by
    rw [suffix, String.toList_ofList, hname, Text.lowerFirstChars_cons hc]
  have hsmall : "s".toList = ['s'] := rfl
  have hlarge : "S".toList = ['S'] := rfl
  rw [← String.toList_eq_nil_iff, hform, dropFinalS_eq_nil, ← String.toList_inj,
    ← String.toList_inj, hname, hsmall, hlarge]
  simp only [reduceCtorEq, false_or, List.cons.injEq, hlower, or_and_right]

end Singularizer

/-! ## Spellings -/

/-- A token spells a name that begins as in `base`: as one, or as many with a final `s`. A name that
ends in `s`, in either case, is not put into the plural. -/
inductive Spells (name base : String) : String → Prop
  /-- The name as it begins. -/
  | one : Spells name base base
  /-- The plural. -/
  | many : name.toList.getLast? ≠ some 's' → name.toList.getLast? ≠ some 'S' →
    Spells name base (base ++ "s")

/-- A token spells a name: as declared or with a capital, as one or as many. -/
def IsSpelling (name token : String) : Prop :=
  Spells name name token ∨ Spells name (Text.capitalized name) token

namespace Spells

variable {name base token : String}

/-- Spellings of identifiers consist of characters of identifiers. -/
lemma all_isIdentifierPart (h : Spells name base token)
    (hbase : ∀ c ∈ base.toList, Text.isIdentifierPart c = true) :
    ∀ c ∈ token.toList, Text.isIdentifierPart c = true := by
  cases h with
  | one => exact hbase
  | many _ _ =>
    intro c hc
    rw [String.toList_append, List.mem_append] at hc
    rcases hc with hc | hc
    · exact hbase c hc
    · obtain rfl : c = 's' := List.mem_singleton.mp hc
      decide

/-- An identifier that does not end in `s` does not do so in lower case either. -/
lemma getLast?_lowerFirstChars (hname : Text.isIdentifier name = true)
    (hsmall : name.toList.getLast? ≠ some 's') (hlarge : name.toList.getLast? ≠ some 'S') :
    (Text.lowerFirstChars name.toList).getLast? ≠ some 's' := by
  obtain ⟨c, cs, htext, hc⟩ := Text.exists_cons_of_isIdentifier hname
  rw [htext] at hsmall hlarge ⊢
  rw [Text.lowerFirstChars_cons hc]
  cases cs with
  | nil =>
    have hlower : c.toLower = 's' → c = 's' ∨ c = 'S' :=
      Text.forall_ascii (p := fun c => c.toLower = 's' → c = 's' ∨ c = 'S') (by decide)
        (Text.toNat_lt_of_isIdentifierPart hc)
    intro h
    rcases hlower (Option.some.inj h) with rfl | rfl
    · exact hsmall rfl
    · exact hlarge rfl
  | cons d ds =>
    rw [List.getLast?_cons_cons] at hsmall ⊢
    exact hsmall

/-- Spellings have the form of a name exactly if they begin alike in lower case. -/
theorem singular_eq_iff (hname : Text.isIdentifier name = true) (h : Spells name base token)
    (hbase : base.toList ≠ [])
    (hlength : (Text.lowerFirstChars base.toList).length =
      (Text.lowerFirstChars name.toList).length) :
    Singularizer.suffix.singular token = Singularizer.suffix.singular name ↔
      Text.lowerFirstChars base.toList = Text.lowerFirstChars name.toList := by
  rw [Singularizer.singular_eq_iff]
  cases h with
  | one => exact Singularizer.dropFinalS_inj hlength
  | many hsmall hlarge =>
    obtain ⟨c, cs, htext⟩ := List.exists_cons_of_ne_nil hbase
    have hplural : Text.lowerFirstChars (base ++ "s").toList =
        Text.lowerFirstChars base.toList ++ ['s'] := by
      rw [String.toList_append, htext, List.cons_append, Text.lowerFirstChars,
        Text.lowerFirstChars, List.append_assoc]
      rfl
    rw [hplural, Singularizer.dropFinalS_concat,
      Singularizer.dropFinalS_of_ne (getLast?_lowerFirstChars hname hsmall hlarge)]

end Spells

/-! ## Understanding -/

open Singularizer (suffix)

namespace EntityMetadata

/-- A token is understood as a name: it means the first indexed property of the form of the name, or
is refused for a property that is declared. -/
structure ResolvesLike (m : EntityMetadata) (name token : String) : Prop where
  /-- The first indexed property of the form is found. -/
  found : ∀ p, suffix.IsFirstOfForm (suffix.singular name) m.indexedProperties p →
    suffix.resolve m token = .ok p.name
  /-- If there is none, the token counts as declared. -/
  refused : (∀ p ∈ m.indexedProperties, suffix.singular p.name ≠ suffix.singular name) →
    ∃ property, suffix.resolve m token = .error (.unindexedProperty m.entityName property true)

/-- What becomes of the spellings of a property. -/
structure ReadsSpellings (m : EntityMetadata) (name : String) : Prop where
  /-- Nothing is left of the name `s`, in either case: it is refused, and not even counts as
  declared. -/
  bare : name = "s" ∨ name = "S" → ∀ token, IsSpelling name token →
    suffix.resolve m token = .error (.unindexedProperty m.entityName token false)
  /-- Any other name is understood, and so is its plural. -/
  declared : name ≠ "s" → name ≠ "S" → ∀ token, Spells name name token →
    m.ResolvesLike name token
  /-- The same is true of a capital in front. -/
  capital : name ≠ "s" → name ≠ "S" → name.toList.head? ≠ some '_' →
    ∀ token, Spells name (Text.capitalized name) token → m.ResolvesLike name token
  /-- A capital behind an underscore is not undone: the token does not mean the property. -/
  underscore : name.toList.head? = some '_' → Text.capitalized name ≠ name →
    ∀ token, Spells name (Text.capitalized name) token → suffix.resolve m token ≠ .ok name

variable {m : EntityMetadata} {name token : String} {p : PropertyDeclaration}

/-- A token of the form of a declared property is understood as its name. -/
lemma resolvesLike_of_form (htrim : Text.trim token = token)
    (hform : suffix.singular token = suffix.singular p.name)
    (hempty : suffix.singular p.name ≠ "") (hp : p ∈ m.properties) :
    m.ResolvesLike p.name token where
  found q hq := by
    apply Singularizer.resolve_of_first
    · rwa [htrim, hform]
    · rwa [htrim, hform]
  refused h := by
    refine ⟨_, Singularizer.resolve_of_plain ?_ ?_ hp ?_⟩
    · rwa [htrim, hform]
    · rwa [htrim, hform]
    · rw [htrim, hform]

/-- A token of another form does not mean a name. -/
lemma resolve_ne_of_form (htrim : Text.trim token = token)
    (hform : suffix.singular token ≠ suffix.singular name) :
    suffix.resolve m token ≠ .ok name := by
  intro h
  obtain ⟨-, q, ⟨_, _, -, hsame, -⟩, rfl⟩ := Singularizer.resolve_eq_ok.mp h
  rw [htrim] at hsame
  exact hform hsame.symm

end EntityMetadata

/-! ## Names with a capital -/

namespace Text

variable {name : String}

/-- In lower case a name of identifiers is as long as it was. -/
lemma length_lowerFirstChars {cs : List Char} (h : ∀ c ∈ cs, isIdentifierPart c = true) :
    (lowerFirstChars cs).length = cs.length := by
  cases cs with
  | nil => rfl
  | cons c cs => rw [lowerFirstChars_cons (h c (.head _)), List.length_cons, List.length_cons]

/-- A name with a capital agrees with the name in lower case, unless the capital stands behind an
underscore. -/
lemma lowerFirstChars_capitalized (h : isIdentifier name = true) :
    lowerFirstChars (capitalized name).toList = lowerFirstChars name.toList ↔
      (name.toList.head? = some '_' → capitalized name = name) := by
  obtain ⟨c, cs, hname, hc⟩ := exists_cons_of_isIdentifier h
  rw [capitalized, String.toList_ofList, hname, List.head?_cons, Option.some_inj]
  by_cases hunderscore : c = '_'
  · subst hunderscore
    rw [lowerFirstChars_underscore, lowerFirstChars_cons hc, ← String.toList_inj,
      String.toList_ofList, hname]
    simp [capitalChars]
  · have hstart : isIdentifierStart c = true := by
      rw [isIdentifier, hname, isIdentifierChars, Bool.and_eq_true] at h
      exact h.1
    rw [lowerFirstChars_capitalChars hc cs hunderscore hstart]
    simp [hunderscore]

end Text

namespace Spells

variable {name token : String}

/-- A spelling is not trimmed. -/
lemma trim_eq (hname : Text.isIdentifier name = true) (h : IsSpelling name token) :
    Text.trim token = token := by
  have hparts : ∀ c ∈ token.toList, Text.isIdentifierPart c = true := by
    rcases h with h | h
    · exact h.all_isIdentifierPart (Text.all_isIdentifierPart hname)
    · refine h.all_isIdentifierPart ?_
      rw [Text.capitalized, String.toList_ofList]
      exact Text.all_isIdentifierPart_capitalChars (Text.all_isIdentifierPart hname)
  exact Text.trim_eq_self fun c hc => Text.isBlank_of_isIdentifierPart (hparts c hc)

/-- A spelling without a capital has the form of the name. -/
lemma singular_eq (hname : Text.isIdentifier name = true) (h : Spells name name token) :
    suffix.singular token = suffix.singular name := by
  obtain ⟨c, cs, htext, -⟩ := Text.exists_cons_of_isIdentifier hname
  exact (h.singular_eq_iff hname (htext ▸ List.cons_ne_nil c cs) rfl).mpr rfl

/-- A spelling with a capital has the form of the name, unless the capital stands behind an
underscore. -/
lemma singular_eq_capital (hname : Text.isIdentifier name = true)
    (h : Spells name (Text.capitalized name) token) :
    suffix.singular token = suffix.singular name ↔
      (name.toList.head? = some '_' → Text.capitalized name = name) := by
  have hparts := Text.all_isIdentifierPart hname
  have hlength : (Text.capitalized name).toList.length = name.toList.length := by
    rw [Text.capitalized, String.toList_ofList, Text.length_capitalChars]
  rw [h.singular_eq_iff hname, Text.lowerFirstChars_capitalized hname]
  · obtain ⟨c, cs, htext, -⟩ := Text.exists_cons_of_isIdentifier hname
    rw [← List.length_pos_iff, hlength, htext]
    exact Nat.succ_pos _
  · rw [Text.length_lowerFirstChars hparts, Text.length_lowerFirstChars, hlength]
    rw [Text.capitalized, String.toList_ofList]
    exact Text.all_isIdentifierPart_capitalChars hparts

end Spells

namespace EntityMetadata

variable {m : EntityMetadata} {p : PropertyDeclaration}

/-- **The spellings of a property mean the first indexed property of its form**, as long as anything
is left of its name and it is not told from another name by a capital behind an underscore. -/
theorem readsSpellings (hnames : ∀ q ∈ m.properties, Text.isIdentifier q.name = true)
    (hp : p ∈ m.properties) : m.ReadsSpellings p.name := by
  have hname : Text.isIdentifier p.name = true := hnames p hp
  have hempty : p.name ≠ "s" → p.name ≠ "S" → suffix.singular p.name ≠ "" := by
    intro hsmall hlarge h
    exact ((Singularizer.singular_eq_empty hname).mp h).elim hsmall hlarge
  constructor
  case bare =>
    intro hbare token htoken
    have hform : suffix.singular token = suffix.singular p.name := by
      rcases htoken with h | h
      · exact h.singular_eq hname
      · refine (h.singular_eq_capital hname).mpr fun hunderscore => ?_
        rcases hbare with hbare | hbare <;> rw [hbare] at hunderscore <;> cases hunderscore
    apply Singularizer.resolve_of_empty
    rw [Spells.trim_eq hname htoken, hform]
    exact (Singularizer.singular_eq_empty hname).mpr hbare
  case declared =>
    intro hsmall hlarge token htoken
    exact resolvesLike_of_form (Spells.trim_eq hname (.inl htoken)) (htoken.singular_eq hname)
      (hempty hsmall hlarge) hp
  case capital =>
    intro hsmall hlarge hstart token htoken
    exact resolvesLike_of_form (Spells.trim_eq hname (.inr htoken))
      ((htoken.singular_eq_capital hname).mpr fun h => absurd h hstart) (hempty hsmall hlarge) hp
  case underscore =>
    intro hstart hcapital token htoken
    refine resolve_ne_of_form (Spells.trim_eq hname (.inr htoken)) fun hform => hcapital ?_
    exact (htoken.singular_eq_capital hname).mp hform hstart

/-- Films with one indexed property. -/
def filmsBy (name : String) : EntityMetadata :=
  .ofDeclarations ⟨.node, "Film"⟩ [⟨name, true⟩]

/-- Films have a title and titles, of which the latter are indexed, and a budget that is not. -/
def titledAlike : EntityMetadata :=
  .ofDeclarations ⟨.node, "Film"⟩ [⟨"title", false⟩, ⟨"titles", true⟩, ⟨"budget", false⟩]

/-- The title of a film is taken for its titles, which are indexed, and its budgets for a budget that
is not. -/
theorem readsSpellings_titledAlike :
    (∀ q ∈ titledAlike.properties, Text.isIdentifier q.name = true) ∧
      suffix.resolve titledAlike "Title" = .ok "titles" ∧
      ∃ property, suffix.resolve titledAlike "Budgets" =
        .error (.unindexedProperty "Film" property true) := by
  have hnames : ∀ q ∈ titledAlike.properties, Text.isIdentifier q.name = true := by decide
  have htitle : Spells "title" (Text.capitalized "title") "Title" := .one
  have hbudget : Spells "budget" (Text.capitalized "budget") "Budgets" :=
    .many (by decide) (by decide)
  refine ⟨hnames, ?_, ?_⟩
  · exact ((readsSpellings hnames (p := ⟨"title", false⟩) (.head _)).capital (by decide) (by decide)
      (by decide) "Title" htitle).found ⟨"titles", true⟩
        ⟨[], [], rfl, by decide +kernel, by decide⟩
  · exact ((readsSpellings hnames (p := ⟨"budget", false⟩) (.tail _ (.tail _ (.head _)))).capital
      (by decide) (by decide) (by decide) "Budgets" hbudget).refused (by decide +kernel)

/-- Films are not found by a property `s`, and not by `_title` if it is written with a capital. -/
theorem exists_misread_spelling :
    ((∀ q ∈ (filmsBy "s").properties, Text.isIdentifier q.name = true) ∧
      (⟨"s", true⟩ : PropertyDeclaration) ∈ (filmsBy "s").properties ∧ IsSpelling "s" "s" ∧
      ¬(filmsBy "s").ResolvesLike "s" "s") ∧
    (∀ q ∈ (filmsBy "_title").properties, Text.isIdentifier q.name = true) ∧
      (⟨"_title", true⟩ : PropertyDeclaration) ∈ (filmsBy "_title").properties ∧
      IsSpelling "_title" "_Title" ∧ ¬(filmsBy "_title").ResolvesLike "_title" "_Title" := by
  refine ⟨⟨by decide, .head _, .inl .one, fun h => ?_⟩, by decide, .head _, .inr .one, fun h => ?_⟩
  · have hbare := h.found ⟨"s", true⟩ ⟨[], [], rfl, rfl, by simp⟩
    have hrefused : suffix.resolve (filmsBy "s") "s" =
        .error (.unindexedProperty "Film" "s" false) := by decide +kernel
    rw [hrefused] at hbare
    cases hbare
  · have hcapital := h.found ⟨"_title", true⟩ ⟨[], [], rfl, rfl, by simp⟩
    have hrefused : suffix.resolve (filmsBy "_title") "_Title" =
        .error (.unindexedProperty "Film" "_Title" false) := by decide +kernel
    rw [hrefused] at hcapital
    cases hcapital

end EntityMetadata

end EntityFinder
