/-
# Types that are refused

A type that is declared by an object is read along its item types, down to the first declaration
that is no sequence with an item type.  That one decides what comes of the whole.  It may stand
for a type by itself, and then a type is read.  Otherwise the type is refused at the argument it
was read for, unless a list or an object stands in the place of the kind: then the kind cannot
even be looked up, and nothing says where.

Main definitions:

* `Json.innermost` : the declaration inside all sequences with an item type;
* `SchemaType.IsDeclaration` : a declaration that stands for a type by itself;
* `Json.hasKey` : the kind of a declaration can be looked up.
-/
import CatalogClasses.Catalog.Entry
import CatalogClasses.Proofs.TypeGrammar

namespace CatalogClasses

/-! ## The declaration inside all sequences -/

namespace Json

/-- The kind is that of sequences. -/
def isSequenceWord : Json → Bool
  | .str word => word = "sequence"
  | _ => false

/-- The declaration inside all sequences that declare their item type. -/
def innermost : Json → Json
  | .obj fields =>
      if (fieldOrNull "kind" fields).isSequenceWord then
        match _h : lookup "item" fields with
        | some item => innermost item
        | none => .obj fields
      else .obj fields
  | entry => entry
  termination_by entry => sizeOf entry
  decreasing_by
    have := sizeOf_lookup_lt _h
    simp only [Json.obj.sizeOf_spec]
    omega

/-- The value can be looked up in a table: it is neither a list nor an object. -/
def canBeKey : Json → Bool
  | .arr _ | .obj _ => false
  | _ => true

/-- The kind of a declaration can be looked up; only an object tells its kind. -/
def hasKey : Json → Bool
  | .obj fields => (fieldOrNull "kind" fields).canBeKey
  | _ => true

/-- The declaration is no sequence with an item type. -/
def isInnermost : Json → Bool
  | .obj fields =>
      !((fieldOrNull "kind" fields).isSequenceWord && (lookup "item" fields).isSome)
  | _ => true

theorem isSequenceWord_iff {word : Json} : word.isSequenceWord = true ↔ word = .str "sequence" := by
  cases word <;> simp [isSequenceWord]

/-- The declaration inside all sequences is no such sequence itself. -/
theorem isInnermost_innermost (entry : Json) : entry.innermost.isInnermost = true := by
  fun_induction innermost entry with
  | case1 fields hkind item hitem ih => exact ih
  | case2 fields hkind hitem =>
    rw [isInnermost, hitem]
    simp
  | case3 fields hkind =>
    rw [isInnermost, Bool.eq_false_iff.2 hkind]
    rfl
  | case4 entry hobj =>
    unfold isInnermost
    split
    · next fields => exact absurd rfl (hobj fields)
    · rfl

end Json

/-! ## Kinds and words -/

/-- The kind goes by a word: its own, or one of the names of the type. -/
def PlainKind.IsCalled (kind : PlainKind) (word : String) : Prop :=
  kind.word = word ∨ (word, kind) ∈ primitiveNames

namespace SchemaType

variable {argument : Json}

theorem kindOfWord_sequence : kindOfWord argument (.str "sequence") = .ok .sequence := rfl

/-- A kind is found by each word that it goes by. -/
theorem kindOfWord_of_isCalled {kind : PlainKind} {word : String} (h : kind.IsCalled word) :
    kindOfWord argument (.str word) = .ok (.plain kind) := by
  rcases h with rfl | hnamed
  · cases kind <;> rfl
  · have hall : ∀ entry ∈ primitiveNames, Kind.ofWord? entry.1 = some (.plain entry.2) ∨
        Kind.ofWord? entry.1 = none ∧ primitiveNames.lookup entry.1 = some entry.2 := by decide
    rcases hall _ hnamed with hword | ⟨hnone, hlookup⟩
    · rw [kindOfWord, hword]
    · rw [kindOfWord, hnone, hlookup]

/-- All that can come of looking a kind up. -/
theorem kindOfWord_cases (argument word : Json) :
    word = .str "sequence" ∨
    (∃ kind text, word = .str text ∧ PlainKind.IsCalled kind text) ∨
    (word.canBeKey = true ∧ kindOfWord argument word = failAt argument (.unknownKind word)) ∨
    word.canBeKey = false ∧ kindOfWord argument word = malformed .notAKey := by
  cases word with
  | str text =>
    by_cases hsequence : text = "sequence"
    · exact .inl (congrArg Json.str hsequence)
    · cases hword : (PlainKind.all.find? (·.word = text)) with
      | some kind =>
        have hkind : kind.word = text := by simpa using List.find?_some hword
        exact .inr (.inl ⟨kind, text, rfl, .inl hkind⟩)
      | none =>
        have hnone : Kind.ofWord? text = none := by
          rw [Kind.ofWord?, if_neg hsequence, hword]
          rfl
        cases hlookup : primitiveNames.lookup text with
        | some kind =>
          exact .inr (.inl ⟨kind, text, rfl, .inr (mem_primitiveNames_of_lookup hlookup)⟩)
        | none =>
          refine .inr (.inr (.inl ⟨rfl, ?_⟩))
          rw [kindOfWord, hnone, hlookup]
  | arr elements => exact .inr (.inr (.inr ⟨rfl, rfl⟩))
  | obj fields => exact .inr (.inr (.inr ⟨rfl, rfl⟩))
  | null | bool | int | float => exact .inr (.inr (.inl ⟨rfl, rfl⟩))

/-! ## Declarations that stand for a type -/

/-- The declaration stands for a type by itself: it is a text that declares one, or an object
with a word for a plain kind, and with a name where the kind is known by its name. -/
inductive IsDeclaration : Json → Prop where
  | text {text : String} (form : TypeText) (htext : form.text = text.toList) :
      IsDeclaration (.str text)
  | plain {fields : List (String × Json)} {word : String} {kind : PlainKind}
      (hkind : Json.lookup "kind" fields = some (.str word)) (hcalled : kind.IsCalled word)
      (hname : kind.isNamed = true → (Json.fieldOrNull "name" fields).isTruthy = true) :
      IsDeclaration (.obj fields)

theorem lookup_of_fieldOrNull_eq_str {key text : String} {fields : List (String × Json)}
    (h : Json.fieldOrNull key fields = .str text) : Json.lookup key fields = some (.str text) := by
  unfold Json.fieldOrNull at h
  cases hlookup : Json.lookup key fields with
  | none =>
    rw [hlookup] at h
    cases h
  | some value =>
    rw [hlookup] at h
    exact congrArg some h

theorem isTruthy_name (fields : List (String × Json)) :
    ((Json.lookup "name" fields).getD (.str "")).isTruthy =
      (Json.fieldOrNull "name" fields).isTruthy := by
  unfold Json.fieldOrNull
  cases Json.lookup "name" fields with
  | none => rfl
  | some name => rfl

/-- The kind of a declaration that stands for a type can be looked up. -/
theorem IsDeclaration.hasKey {entry : Json} (h : IsDeclaration entry) : entry.hasKey = true := by
  cases h with
  | text form htext => rfl
  | plain hkind hcalled hname =>
    rw [Json.hasKey, Json.fieldOrNull, hkind]
    rfl

/-- The kind of an object that stands for a type is found to be a plain one, and there is a name if
the kind is known by its name. -/
theorem isDeclaration_obj_iff (argument : Json) {fields : List (String × Json)} :
    IsDeclaration (.obj fields) ↔
      ∃ kind, kindOfWord argument (Json.fieldOrNull "kind" fields) = .ok (.plain kind) ∧
        (kind.isNamed = true → (Json.fieldOrNull "name" fields).isTruthy = true) := by
  constructor
  · intro h
    cases h with
    | plain hkind hcalled hname =>
      refine ⟨_, ?_, hname⟩
      rw [Json.fieldOrNull, hkind]
      exact kindOfWord_of_isCalled hcalled
  · rintro ⟨kind, hkind, hname⟩
    rcases kindOfWord_cases argument (Json.fieldOrNull "kind" fields) with
      hword | ⟨other, word, hword, hcalled⟩ | ⟨-, hfault⟩ | ⟨-, hfault⟩
    · rw [hword, kindOfWord_sequence] at hkind
      cases hkind
    · rw [hword, kindOfWord_of_isCalled hcalled] at hkind
      cases hkind
      exact .plain (lookup_of_fieldOrNull_eq_str hword) hcalled hname
    · rw [hfault] at hkind
      cases hkind
    · rw [hfault] at hkind
      cases hkind

/-! ## What comes of a declaration -/

/-- What can come of a declaration: a type if it stands for one, else a refusal at the argument it
is read for, or a malformed value if its kind cannot be looked up. -/
inductive Outcome (argument entry : Json) : Fallible SchemaType → Prop where
  | read (h : IsDeclaration entry) (type : SchemaType) : Outcome argument entry (.ok type)
  | refused (h : ¬ IsDeclaration entry) (hkey : entry.hasKey = true) {cause : Cause}
      (hcause : cause.category = .unmapped) : Outcome argument entry (failAt argument cause)
  | malformed (h : ¬ IsDeclaration entry) (hkey : entry.hasKey = false) :
      Outcome argument entry (malformed .notAKey)

/-- An outcome stays one when a type that is read is put into a sequence. -/
theorem Outcome.wrapped {entry : Json} {result : Fallible SchemaType}
    (h : Outcome argument entry result) (wrap : SchemaType → SchemaType) :
    Outcome argument entry (result >>= fun type => .ok (wrap type)) := by
  cases h with
  | read h type => exact .read h (wrap type)
  | refused h hkey hcause => exact .refused h hkey hcause
  | malformed h hkey => exact .malformed h hkey

/-- A text is read or refused. -/
theorem outcome_str (argument : Json) (text : String) :
    Outcome argument (.str text) (ofJson argument (.str text)) := by
  rw [ofJson]
  rcases ofText_cases argument text.toList with ⟨type, htype⟩ | ⟨rest, hrest⟩
  · rw [htype]
    obtain ⟨form, htext, -⟩ := exists_typeText argument text.toList htype
    exact .read (.text form htext) type
  · rw [hrest]
    refine .refused ?_ rfl rfl
    rintro ⟨form, htext⟩
    have hread := ofText_spelling argument form.named form.nullable form.pairs _ _
      form.blankBefore form.blankAfter
    rw [show form.before ++ TypeText.spelling form.name form.nullable form.pairs ++ form.after =
      text.toList from htext, hrest] at hread
    cases hread

/-- A sequence without an item type is refused. -/
theorem outcome_bareSequence {fields : List (String × Json)}
    (hword : Json.fieldOrNull "kind" fields = .str "sequence")
    (hitem : Json.lookup "item" fields = none) :
    Outcome argument (.obj fields) (ofJson argument (.obj fields)) := by
  have hread : ofJson argument (.obj fields) = failAt argument .declarationWithoutItem := by
    rw [ofJson, show (Json.lookup "kind" fields).getD .null = .str "sequence" from hword,
      kindOfWord_sequence, ok_bind]
    dsimp only
    split
    · rfl
    · next entry hentry =>
      rw [hitem] at hentry
      cases hentry
  rw [hread]
  refine .refused ?_ (by rw [Json.hasKey, hword]; rfl) rfl
  rw [isDeclaration_obj_iff argument, hword, kindOfWord_sequence]
  rintro ⟨kind, hkind, -⟩
  cases hkind

/-- An object of a plain kind is read, unless it lacks the name that its kind is known by. -/
theorem outcome_plain {fields : List (String × Json)} {kind : PlainKind} {word : String}
    (hword : Json.fieldOrNull "kind" fields = .str word) (hcalled : kind.IsCalled word) :
    Outcome argument (.obj fields) (ofJson argument (.obj fields)) := by
  have hkind : kindOfWord argument (Json.fieldOrNull "kind" fields) = .ok (.plain kind) := by
    rw [hword]
    exact kindOfWord_of_isCalled hcalled
  have hread : kindOfWord argument ((Json.lookup "kind" fields).getD .null) = .ok (.plain kind) :=
    hkind
  rw [ofJson, hread, ok_bind]
  dsimp only
  rw [isTruthy_name]
  by_cases hnameless : (kind.isNamed && !(Json.fieldOrNull "name" fields).isTruthy) = true
  · rw [if_pos hnameless]
    rw [Bool.and_eq_true, Bool.not_eq_true'] at hnameless
    refine .refused ?_ (by rw [Json.hasKey, hword]; rfl) rfl
    rw [isDeclaration_obj_iff argument, hkind]
    rintro ⟨_, ⟨⟩, hname⟩
    rw [hname hnameless.1] at hnameless
    cases hnameless.2
  · rw [if_neg hnameless]
    refine .read ((isDeclaration_obj_iff argument).2 ⟨kind, hkind, ?_⟩) _
    intro hnamed
    rw [hnamed, Bool.true_and, Bool.not_eq_true', Bool.not_eq_false] at hnameless
    exact hnameless

/-- What comes of an object that is no sequence with an item type. -/
theorem outcome_obj (argument : Json) {fields : List (String × Json)}
    (h : (Json.obj fields).isInnermost = true) :
    Outcome argument (.obj fields) (ofJson argument (.obj fields)) := by
  rcases kindOfWord_cases argument (Json.fieldOrNull "kind" fields) with
    hword | ⟨kind, word, hword, hcalled⟩ | ⟨hkey, hfault⟩ | ⟨hkey, hfault⟩
  · have hitem : Json.lookup "item" fields = none := by
      rw [Json.isInnermost, hword] at h
      simpa [Json.isSequenceWord] using h
    exact outcome_bareSequence hword hitem
  · exact outcome_plain hword hcalled
  all_goals
    -- no kind is found, and so no type is stood for
    have hno : ¬ IsDeclaration (.obj fields) := by
      rw [isDeclaration_obj_iff argument, hfault]
      rintro ⟨kind, hkind, -⟩
      cases hkind
    rw [ofJson, show kindOfWord argument ((Json.lookup "kind" fields).getD .null) = _ from hfault]
  · exact .refused hno hkey rfl
  · exact .malformed hno hkey

/-- What is neither a text nor an object is refused. -/
theorem outcome_other (argument : Json) {entry : Json} (hstr : ∀ text, entry ≠ .str text)
    (hobj : ∀ fields, entry ≠ .obj fields) : Outcome argument entry (ofJson argument entry) := by
  have hkey : entry.hasKey = true := by
    cases entry with
    | obj fields => exact absurd rfl (hobj fields)
    | null | bool | int | float | str | arr => rfl
  rw [ofJson]
  · refine .refused ?_ hkey rfl
    intro h
    cases h with
    | text form htext => exact hstr _ rfl
    | plain hkind hcalled hname => exact hobj _ rfl
  · exact hstr
  · exact hobj

/-- What comes of a declaration that is no sequence with an item type. -/
theorem outcome_of_isInnermost (argument : Json) {entry : Json} (h : entry.isInnermost = true) :
    Outcome argument entry (ofJson argument entry) := by
  cases entry with
  | str text => exact outcome_str argument text
  | obj fields => exact outcome_obj argument h
  | null | bool | int | float | arr => exact outcome_other argument nofun nofun

/-- A sequence that declares its item type is read by reading that type. -/
theorem ofJson_of_item (argument : Json) {fields : List (String × Json)} {item : Json}
    (hkind : (Json.fieldOrNull "kind" fields).isSequenceWord = true)
    (hitem : Json.lookup "item" fields = some item) :
    ∃ wrap : SchemaType → SchemaType,
      ofJson argument (.obj fields) = ofJson argument item >>= fun type => .ok (wrap type) := by
  have hword : (Json.lookup "kind" fields).getD .null = .str "sequence" :=
    Json.isSequenceWord_iff.1 hkind
  refine ⟨fun type => sequence type ((Json.lookup "name" fields).getD (.str ""))
    ((Json.lookup "nullable" fields).getD .null).isTruthy, ?_⟩
  rw [ofJson, hword, kindOfWord_sequence, ok_bind]
  dsimp only
  split
  · next hnone =>
    rw [hitem] at hnone
    cases hnone
  · next entry hentry =>
    rw [hitem] at hentry
    obtain rfl := Option.some.inj hentry
    rfl

/-- What comes of a declaration is decided by the one inside all its sequences. -/
theorem outcome_innermost (argument entry : Json) :
    Outcome argument entry.innermost (ofJson argument entry) := by
  have hinnermost := entry.isInnermost_innermost
  fun_induction Json.innermost entry with
  | case1 fields hkind item hitem ih =>
    obtain ⟨wrap, hwrap⟩ := ofJson_of_item argument hkind hitem
    rw [hwrap]
    exact (ih hinnermost).wrapped wrap
  | case2 fields hkind hitem => exact outcome_of_isInnermost argument hinnermost
  | case3 fields hkind => exact outcome_of_isInnermost argument hinnermost
  | case4 entry hobj => exact outcome_of_isInnermost argument hinnermost

/-- **A bad type is refused, unless its kind is a list or an object.**  A declaration is read as a
type just when the one inside all its sequences stands for a type.  Otherwise it is refused, with a
cause of its family, at the argument it is read for and at no component; but for a declaration whose
kind cannot be looked up: that is malformed, and has neither a cause nor a place. -/
theorem ofJson_type_or_refusal (argument entry : Json) :
    ((∃ type, ofJson argument entry = .ok type) ↔ IsDeclaration entry.innermost) ∧
    ((∃ cause : Cause, cause.category = .unmapped ∧
        ofJson argument entry = .error (.failure ⟨cause, .null, argument⟩)) ↔
      ¬ IsDeclaration entry.innermost ∧ entry.innermost.hasKey = true) ∧
    (ofJson argument entry = .error (.malformed .notAKey) ↔ entry.innermost.hasKey = false) := by
  have houtcome : Outcome argument entry.innermost (ofJson argument entry) :=
    outcome_innermost argument entry
  generalize ofJson argument entry = result at houtcome ⊢
  cases houtcome with
  | read h type =>
    refine ⟨iff_of_true ⟨type, rfl⟩ h, iff_of_false nofun fun hno => hno.1 h, ?_⟩
    rw [h.hasKey]
    exact iff_of_false nofun nofun
  | @refused h hkey cause hcause =>
    refine ⟨iff_of_false nofun h, iff_of_true ⟨cause, hcause, rfl⟩ ⟨h, hkey⟩, ?_⟩
    rw [hkey]
    exact iff_of_false nofun nofun
  | malformed h hkey =>
    refine ⟨iff_of_false nofun h, ?_, iff_of_true rfl hkey⟩
    rw [hkey]
    exact iff_of_false nofun fun hno => Bool.false_ne_true hno.2

/-- A list in the place of the kind is neither read nor refused. -/
theorem ofJson_of_listKind :
    ofJson (.str "rate") (.obj [("kind", .arr [.str "int"])]) = .error (.malformed .notAKey) ∧
    ¬ ((∃ type, ofJson (.str "rate") (.obj [("kind", .arr [.str "int"])]) = .ok type) ∨
      ∃ cause : Cause, cause.category = .unmapped ∧
        ofJson (.str "rate") (.obj [("kind", .arr [.str "int"])]) =
          .error (.failure ⟨cause, .null, .str "rate"⟩)) := by
  have hread : ofJson (.str "rate") (.obj [("kind", .arr [.str "int"])]) =
      .error (.malformed .notAKey) := by
    rw [ofJson]
    rfl
  rw [hread]
  refine ⟨rfl, ?_⟩
  rintro (⟨type, htype⟩ | ⟨cause, -, hcause⟩)
  · cases htype
  · cases hcause

end SchemaType

end CatalogClasses
