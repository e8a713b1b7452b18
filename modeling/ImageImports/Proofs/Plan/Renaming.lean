import ImageImports.Plan
import ImageImports.Proofs.Program.Compiled
import ImageImports.Proofs.Program.Declarations
import ImageImports.Proofs.Tree.Renaming

/-!
# Factories under another name

A program may bind its factory to any name. If that name is put for another one that the program
does not bear, then the factories are found under the new name, and the image calls are the same
calls with the same texts. So the same images are planned.

A name can only be changed where it is a name of the program. A specifier that gives no name of its
module has one name for both, and to change that would import something else.

## Main definitions

* `Tree.NamesInPlace`: a node has names of the program and names of properties where the grammar has
  them.
* `Factory.IsExplicit`: a specifier that binds a name says what it imports under it.
* `Tree.Renamable`: a node in which a name can be put for another.

## Main results

* `Factory.bindingsOf_renameFrom`: the factories that a renamed declaration imports.
* `Call.imageTexts_renameFrom`: the texts of a renamed call.
* `Plan.renaming_keeps_plan`: the factories and the plan of a renamed program.
-/

namespace ImageImports

/-! ### Names in a program -/

/-- A node has its names where the grammar of programs has them: a specifier binds a name of the
program, and the names of members and of properties are none. -/
structure Tree.NamesInPlace (t : Tree) : Prop where
  specifier : t.isKind "ImportSpecifier" = true →
    ((t.field? "local").bind Tree.boundName?).isSome = true
  member : t.isKind "MemberExpression" = true → (t.field? "property").bind Tree.boundName? = none
  property : t.isKind "KeyValueProperty" = true → (t.field? "key").bind Tree.boundName? = none

instance : DecidablePred Tree.NamesInPlace := fun t =>
  decidable_of_iff
    ((t.isKind "ImportSpecifier" = true →
        ((t.field? "local").bind Tree.boundName?).isSome = true) ∧
      (t.isKind "MemberExpression" = true →
        (t.field? "property").bind Tree.boundName? = none) ∧
      (t.isKind "KeyValueProperty" = true → (t.field? "key").bind Tree.boundName? = none))
    ⟨fun ⟨specifier, member, property⟩ => ⟨specifier, member, property⟩,
      fun h => ⟨h.specifier, h.member, h.property⟩⟩

/-- A specifier that binds a name says what it imports under that name. -/
def Factory.IsExplicit (name : String) (t : Tree) : Prop :=
  t.isKind "ImportSpecifier" = true → Factory.localName? t = some name →
    (t.field? "imported").isSome = true

instance (name : String) : DecidablePred (Factory.IsExplicit name) := fun _ =>
  inferInstanceAs (Decidable (_ → _ → _))

/-- A node in which one name can be put for another. -/
structure Tree.Renamable (old new : String) (t : Tree) : Prop extends t.NamesInPlace where
  explicit : Factory.IsExplicit old t
  fresh : t.boundName? ≠ some new

variable {old new : String}

namespace Tree

/-- A name can be put for another in a program if its names stand in their places, the old name is
imported explicitly, and the program does not bear the new one. -/
theorem throughout_renamable {program : Tree} (hplace : program.Throughout NamesInPlace)
    (hexplicit : program.Throughout (Factory.IsExplicit old)) (hfresh : new ∉ program.boundNames) :
    program.Throughout (Renamable old new) := by
  intro node hnode
  refine ⟨hplace node hnode, hexplicit node hnode, fun hname => hfresh ?_⟩
  obtain ⟨v, hv, rfl⟩ := List.mem_map.mp hnode
  exact List.mem_filterMap.mpr ⟨v, hv, hname⟩

theorem Throughout.boundName?_ne {t : Tree} (h : t.Throughout (Renamable old new)) :
    t.boundName? ≠ some new := by
  intro hname
  have hkind : t.isKind "Identifier" = true := by
    by_contra hkind
    simp [boundName?, hkind] at hname
  exact (h.self hkind).fresh hname

theorem boundName?_of_isKind {t : Tree} {kind : String} (h : t.isKind kind = true)
    (hkind : kind ≠ "Identifier") : t.boundName? = none := by
  have hother : t.isKind "Identifier" = false := by
    rw [isKind, beq_iff_eq] at h
    rw [isKind, h]
    simpa using hkind
  rw [boundName?, hother, Bool.false_and, if_neg Bool.false_ne_true]

theorem isImportedPart_eq_false {kind : Option String} {part : String} (h : part ≠ "imported") :
    isImportedPart kind part = false := by
  simp [isImportedPart, h]

end Tree

/-! ### Texts of renamed calls -/

namespace Call

/-- A factory is called under its new name. -/
theorem contains_map_renamed {names : FactoryNames} (hnames : new ∉ names) {name : String}
    (hname : name ≠ new) :
    (names.map (Tree.renamed old new)).contains (Tree.renamed old new name) =
      names.contains name := by
  rw [Bool.eq_iff_iff, List.contains_iff_mem, List.contains_iff_mem, List.mem_map]
  constructor
  · rintro ⟨known, hknown, heq⟩
    rwa [← (Tree.renamed_inj (ne_of_mem_of_not_mem hknown hnames) hname).mp heq]
  · exact fun hmem => ⟨name, hmem, rfl⟩

theorem callsFactory_renameFrom {names : FactoryNames} (hnames : new ∉ names) (kept : Bool)
    {call : Tree} (hcall : call.Throughout (Tree.Renamable old new)) :
    callsFactory (names.map (Tree.renamed old new)) (Tree.renameFrom old new kept call) =
      callsFactory names call := by
  rw [callsFactory, callsFactory, Tree.field?_renameFrom kept (.inl (by decide)),
    Tree.isImportedPart_eq_false (by decide)]
  cases hcallee : call.field? "callee" with
  | none => rfl
  | some callee =>
    rw [Option.map_some, Option.bind_some, Option.bind_some, Tree.boundName?_renameFrom,
      if_neg Bool.false_ne_true]
    cases hname : callee.boundName? with
    | none => rfl
    | some name =>
      refine contains_map_renamed hnames fun heq => (hcall.field hcallee).boundName?_ne ?_
      rw [hname, heq]

/-- The name of a property is none of the program, so it stays. -/
theorem isImageMember_renameFrom {t : Tree} (h : t.Throughout (Tree.Renamable old new)) :
    isImageMember (Tree.renameFrom old new false t) = isImageMember t := by
  rw [isImageMember, isImageMember, Tree.isKind_renameFrom]
  cases hkind : t.isKind "MemberExpression" with
  | false => rfl
  | true =>
    have hproperty := (h.self hkind).member hkind
    rw [Tree.field?_renameFrom false (.inl (by decide)), Tree.isImportedPart_eq_false (by decide)]
    cases hfield : t.field? "property" with
    | none => rfl
    | some property =>
      rw [hfield, Option.bind_some] at hproperty
      have hvalue : (Tree.renameFrom old new false property).textField? "value" =
          property.textField? "value" :=
        Tree.textField?_renameFrom (.inr (by simp [hproperty])) "value"
      simp only [Option.map_some, Tree.isKind_renameFrom, hvalue]

theorem isObject_renameFrom (t : Tree) :
    isObject (Tree.renameFrom old new false t) = isObject t :=
  Tree.isKind_renameFrom false t _

theorem expression?_renameFrom (argument : Tree) :
    expression? (Tree.renameFrom old new false argument) =
      (expression? argument).map (Tree.renameFrom old new false) := by
  rw [expression?, expression?, Tree.field?_renameFrom false (.inl (by decide)),
    Tree.isImportedPart_eq_false (by decide)]

theorem plainExpression?_renameFrom (argument : Tree) :
    plainExpression? (Tree.renameFrom old new false argument) =
      (plainExpression? argument).map (Tree.renameFrom old new false) := by
  rw [plainExpression?, plainExpression?, expression?_renameFrom,
    Tree.field?_renameFrom false (.inl (by decide)), Option.isSome_map]
  split <;> rfl

/-- The key of a property and its text are no names, so they stay. -/
theorem sourceText?_renameFrom {property : Tree}
    (h : property.Throughout (Tree.Renamable old new)) :
    sourceText? (Tree.renameFrom old new false property) = sourceText? property := by
  by_cases hkind : property.isKind "KeyValueProperty" = true
  · have hname := Tree.boundName?_of_isKind hkind (by decide)
    have hkey := (h.self hkind).property hkind
    rw [sourceText?, sourceText?, Tree.field?_renameFrom false (.inr hname),
      Tree.field?_renameFrom false (.inr hname), Tree.isKind_renameFrom,
      Tree.isImportedPart_eq_false (by decide), Tree.isImportedPart_eq_false (by decide)]
    cases hfound : property.field? "key" with
    | none => rfl
    | some key =>
      cases property.field? "value" with
      | none => rfl
      | some value =>
        rw [hfound, Option.bind_some] at hkey
        have hkeyText : (Tree.renameFrom old new false key).textField? "value" =
            key.textField? "value" :=
          Tree.textField?_renameFrom (.inr (by simp [hkey])) "value"
        simp only [Option.map_some, Tree.isKind_renameFrom, hkeyText]
        split
        next hplain =>
          -- The value is the node of a text, which has no name.
          simp only [Bool.and_eq_true] at hplain
          have hvalue := Tree.boundName?_of_isKind hplain.2 (by decide)
          exact Tree.textField?_renameFrom (.inr (by simp [hvalue])) "value"
        next => rfl
  · have hnone (t : Tree) (ht : ¬ t.isKind "KeyValueProperty" = true) : sourceText? t = none := by
      unfold sourceText?
      split
      · simp [ht]
      · rfl
    rw [hnone property hkind, hnone _ (by rwa [Tree.isKind_renameFrom])]

theorem sourceTexts_renameFrom {object : Tree}
    (h : object.Throughout (Tree.Renamable old new)) :
    sourceTexts (Tree.renameFrom old new false object) = sourceTexts object := by
  rw [sourceTexts, sourceTexts, Tree.listField_renameFrom false _ (by decide),
    List.filterMap_map]
  exact List.filterMap_congr fun property hmem => sourceText?_renameFrom (h.element hmem)

theorem arguments_renameFrom (kept : Bool) (call : Tree) :
    arguments (Tree.renameFrom old new kept call) =
      (arguments call).map (Tree.renameFrom old new false) :=
  Tree.listField_renameFrom kept call (by decide)

/-- Whether a call draws an image does not depend on the name of the factory. -/
theorem isImage_renameFrom {names : FactoryNames} (hnames : new ∉ names) (kept : Bool)
    {call : Tree} (hcall : call.Throughout (Tree.Renamable old new)) :
    isImage (names.map (Tree.renamed old new)) (Tree.renameFrom old new kept call) =
      isImage names call := by
  rw [isImage, isImage, callsFactory_renameFrom hnames kept hcall, arguments_renameFrom]
  rcases harguments : arguments call with _ | ⟨component, _ | ⟨properties, rest⟩⟩
  · rfl
  · rfl
  · have hcomponent : (plainExpression? (Tree.renameFrom old new false component)).any
        isImageMember = (plainExpression? component).any isImageMember := by
      rw [plainExpression?_renameFrom, Option.any_map]
      cases hexpression : plainExpression? component with
      | none => rfl
      | some member =>
        have hmem : component ∈ call.listField "arguments" := by
          rw [show call.listField "arguments" = _ from harguments]
          exact List.mem_cons_self
        rw [plainExpression?] at hexpression
        split at hexpression
        · cases hexpression
        · exact isImageMember_renameFrom ((hcall.element hmem).field hexpression)
    simp only [List.map_cons]
    rw [hcomponent]
    simp only [plainExpression?_renameFrom, Option.any_map, isObject_renameFrom]

/-- The texts that a call gives as `src` do not depend on the name of the factory. -/
theorem imageTexts_renameFrom {names : FactoryNames} (hnames : new ∉ names) (kept : Bool)
    {call : Tree} (hcall : call.Throughout (Tree.Renamable old new)) :
    imageTexts (names.map (Tree.renamed old new)) (Tree.renameFrom old new kept call) =
      imageTexts names call := by
  rw [imageTexts, imageTexts, isImage_renameFrom hnames kept hcall, properties?, properties?,
    arguments_renameFrom]
  rcases harguments : arguments call with _ | ⟨component, _ | ⟨properties, rest⟩⟩
  · rfl
  · rfl
  · have hmem : properties ∈ call.listField "arguments" := by
      rw [show call.listField "arguments" = _ from harguments]
      exact List.mem_cons_of_mem _ List.mem_cons_self
    simp only [List.map_cons, expression?_renameFrom]
    cases hexpression : expression? properties with
    | none => rfl
    | some object =>
      have hobject := (hcall.element hmem).field hexpression
      simp only [Option.map_some, Option.filter_some, isObject_renameFrom]
      split
      · split
        · exact sourceTexts_renameFrom hobject
        · rfl
      · rfl

end Call

/-! ### Factories of renamed declarations -/

namespace Factory

variable (isFactory : String → Bool)

theorem localName?_renameFrom {specifier : Tree} (kept : Bool)
    (hkind : specifier.isKind "ImportSpecifier" = true)
    (h : specifier.Throughout (Tree.Renamable old new)) :
    localName? (Tree.renameFrom old new kept specifier) =
      (localName? specifier).map (Tree.renamed old new) := by
  obtain ⟨name, hname⟩ := Option.isSome_iff_exists.mp ((h.self hkind).specifier hkind)
  obtain ⟨identifier, hlocal, hbound⟩ := Option.bind_eq_some_iff.mp hname
  have hrenamed : (Tree.renameFrom old new false identifier).boundName? =
      some (Tree.renamed old new name) := by
    rw [Tree.boundName?_renameFrom, if_neg Bool.false_ne_true, hbound, Option.map_some]
  rw [localName?, localName?, Tree.field?_renameFrom kept (.inl (by decide)),
    Tree.isImportedPart_eq_false (by decide), hlocal, Option.map_some, Option.bind_some,
    Option.bind_some, Tree.textField?_of_boundName? hrenamed, Tree.textField?_of_boundName? hbound,
    Option.map_some]

/-- What a specifier imports stays, since it says so itself if its own name changes. -/
theorem importedName?_renameFrom {specifier : Tree} (kept : Bool)
    (hkind : specifier.isKind "ImportSpecifier" = true)
    (h : specifier.Throughout (Tree.Renamable old new)) :
    importedName? (Tree.renameFrom old new kept specifier) = importedName? specifier := by
  have hpart : Tree.isImportedPart specifier.kind? "imported" = true := by
    rw [Tree.isKind] at hkind
    rw [Tree.isImportedPart, hkind]
    rfl
  rw [importedName?, importedName?, Tree.field?_renameFrom kept (.inl (by decide)), hpart,
    localName?_renameFrom kept hkind h]
  cases himported : specifier.field? "imported" with
  | some imported => exact Tree.textField?_renameFrom (.inl rfl) "value"
  | none =>
    rw [Option.map_none]
    cases hlocal : localName? specifier with
    | none => rfl
    | some name =>
      have hname : name ≠ old := by
        rintro rfl
        simpa [himported] using (h.self hkind).explicit hkind hlocal
      rw [Option.map_some, Tree.renamed_of_ne hname]

theorem factoryBinding?_renameFrom {specifier : Tree} (kept : Bool)
    (h : specifier.Throughout (Tree.Renamable old new)) :
    factoryBinding? isFactory (Tree.renameFrom old new kept specifier) =
      (factoryBinding? isFactory specifier).map (Tree.renamed old new) := by
  rw [factoryBinding?, factoryBinding?, Tree.isKind_renameFrom]
  cases hkind : specifier.isKind "ImportSpecifier" with
  | false => rfl
  | true =>
    rw [importedName?_renameFrom kept hkind h, localName?_renameFrom kept hkind h]
    split <;> rfl

/-- A renamed declaration imports the same factories, under the renamed names. -/
theorem bindingsOf_renameFrom {declaration : Tree} (kept : Bool)
    (h : declaration.Throughout (Tree.Renamable old new)) :
    bindingsOf isFactory (Tree.renameFrom old new kept declaration) =
      (bindingsOf isFactory declaration).map (Tree.renamed old new) := by
  rw [bindingsOf, bindingsOf, Tree.isKind_renameFrom]
  split
  · rw [Tree.listField_renameFrom kept _ (by decide), List.filterMap_map, List.map_filterMap]
    exact List.filterMap_congr fun specifier hmem =>
      factoryBinding?_renameFrom isFactory false (h.element hmem)
  · rfl

theorem notMem_bindingsOf {declaration : Tree}
    (h : declaration.Throughout (Tree.Renamable old new)) :
    new ∉ bindingsOf isFactory declaration := by
  intro hnew
  rw [bindingsOf] at hnew
  split at hnew
  · obtain ⟨specifier, hmem, hbinding⟩ := List.mem_filterMap.mp hnew
    have hspecifier := h.element hmem
    rw [factoryBinding?] at hbinding
    split at hbinding
    next hfactory =>
      have hkind : specifier.isKind "ImportSpecifier" = true := (Bool.and_eq_true_iff.mp hfactory).1
      obtain ⟨name, hname⟩ :=
        Option.isSome_iff_exists.mp ((hspecifier.self hkind).specifier hkind)
      obtain ⟨identifier, hlocal, hbound⟩ := Option.bind_eq_some_iff.mp hname
      rw [localName?, hlocal, Option.bind_some, Tree.textField?_of_boundName? hbound] at hbinding
      exact (hspecifier.field hlocal).boundName?_ne (hbound.trans hbinding)
    next => cases hbinding
  · cases hnew

theorem declarations_putText (t : Tree) : declarations (Tree.putText new t) = declarations t := by
  cases t <;> rfl

/-- The declarations of a renamed node are those of its renamed parts, if it is none itself. -/
theorem declarations_renameFrom_object (kept : Bool) (fields : List (String × Tree)) :
    declarations (Tree.renameFrom old new kept (.object fields)) =
      if (Tree.object fields).isKind "ImportDeclaration" then
        [Tree.renameFrom old new kept (.object fields)]
      else fields.flatMap fun (part, t) =>
        declarations
          (Tree.renameFrom old new (Tree.isImportedPart (Tree.kindOf fields) part) t) := by
  have hkind := @Tree.isKind_renameFrom old new kept (.object fields) "ImportDeclaration"
  obtain ⟨change, hchange, hparts⟩ := @Tree.exists_mapParts_renameFrom old new kept fields
  rw [hchange] at hkind ⊢
  rw [declarations_mapParts _ _ hkind]
  refine congrArg _ (List.flatMap_congr fun pair _ => ?_)
  obtain hpart | hpart := hparts pair.1 pair.2
  · exact congrArg declarations hpart
  · exact (congrArg declarations hpart).trans (declarations_putText _)

/-- What is read off the declarations of a renamed tree is what is read off those of the tree, if
the same is read off every declaration. -/
theorem flatMap_declarations_renameFrom {α : Type} {f g : Tree → List α} (t : Tree) :
    ∀ kept : Bool, (∀ declaration ∈ declarations t, ∀ kept,
      f (Tree.renameFrom old new kept declaration) = g declaration) →
    (declarations (Tree.renameFrom old new kept t)).flatMap f = (declarations t).flatMap g := by
  induction t using Tree.induction with
  | list elements ih =>
    intro kept h
    rw [declarations_list] at h
    rw [Tree.renameFrom_list, declarations_list, declarations_list, List.flatMap_map,
      List.flatMap_assoc, List.flatMap_assoc]
    exact List.flatMap_congr fun t ht => ih t ht false fun declaration hmem =>
      h declaration (List.mem_flatMap.mpr ⟨t, ht, hmem⟩)
  | object fields ih =>
    intro kept h
    rw [declarations_object] at h
    rw [declarations_renameFrom_object, declarations_object]
    split at h
    next hkind =>
      rw [if_pos hkind, if_pos hkind, List.flatMap_singleton, List.flatMap_singleton]
      exact h _ (List.mem_singleton_self _) kept
    next hkind =>
      rw [if_neg hkind, if_neg hkind, List.flatMap_assoc, List.flatMap_assoc]
      refine List.flatMap_congr fun pair hpair => ?_
      exact ih pair.1 pair.2 hpair _ fun declaration hmem =>
        h declaration (List.mem_flatMap.mpr ⟨pair, hpair, hmem⟩)
  | _ => intro kept _; rfl

end Factory

/-! ### The plan of a renamed program -/

theorem eraseDups_map {α β : Type} [BEq α] [LawfulBEq α] [BEq β] [LawfulBEq β] {f : α → β} :
    (l : List α) → (∀ a ∈ l, ∀ b ∈ l, f a = f b → a = b) →
      (l.map f).eraseDups = l.eraseDups.map f
  | [], _ => rfl
  | a :: rest, h => by
    have hkept (b : α) (hb : b ∈ rest.filter fun b => !b == a) : b ∈ a :: rest :=
      List.mem_cons_of_mem _ (List.mem_of_mem_filter hb)
    -- What is left out because of the first name is left out because of its image.
    have hrest : (rest.map f).filter (fun b => !b == f a) =
        (rest.filter fun b => !b == a).map f := by
      rw [List.filter_map]
      refine congrArg (List.map f) (List.filter_congr fun b hb => ?_)
      have hiff : (f b == f a) = (b == a) := by
        rw [Bool.eq_iff_iff, beq_iff_eq, beq_iff_eq]
        exact ⟨h b (List.mem_cons_of_mem _ hb) a List.mem_cons_self, congrArg f⟩
      rw [Function.comp_apply, hiff]
    rw [List.map_cons, List.eraseDups_cons, List.eraseDups_cons, hrest, List.map_cons,
      eraseDups_map _ fun b hb c hc => h b (hkept b hb) c (hkept c hc)]
termination_by l => l.length
decreasing_by exact Nat.lt_succ_of_le (List.length_filter_le _ _)

namespace Plan

/-- If a name is put for another in a program that does not bear it, then the factories of the
program are found under their new names, and the same images are planned: the same images in the
same order, and the same index for every reference. It does not matter which names the pattern
finds, as long as the old name is not imported without saying what it stands for. -/
theorem renaming_keeps_plan (isFactory : String → Bool) (ascii : Url.ToAscii) (base : Path)
    {program : Tree}
    (hplace : program.Throughout Tree.NamesInPlace)
    (hexplicit : program.Throughout (Factory.IsExplicit old))
    (hfresh : new ∉ program.boundNames) :
    Factory.names isFactory (program.rename old new) =
        (Factory.names isFactory program).map (Tree.renamed old new) ∧
      ofProgram (Factory.names isFactory (program.rename old new)) ascii base
          (program.rename old new) =
        ofProgram (Factory.names isFactory program) ascii base program := by
  have hall := Tree.throughout_renamable hplace hexplicit hfresh
  have hdeclaration (declaration : Tree) (hmem : declaration ∈ Factory.declarations program) :
      declaration.Throughout (Tree.Renamable old new) := by
    obtain ⟨-, v, hv, rfl⟩ := Factory.exists_visit_of_mem_declarations program false hmem
    exact hall.node hv
  let found := (Factory.declarations program).flatMap (Factory.bindingsOf isFactory)
  have hnew : new ∉ found := by
    intro hmem
    obtain ⟨declaration, hdeclared, hbinding⟩ := List.mem_flatMap.mp hmem
    exact Factory.notMem_bindingsOf isFactory (hdeclaration _ hdeclared) hbinding
  have hnames : Factory.names isFactory (program.rename old new) =
      (Factory.names isFactory program).map (Tree.renamed old new) := by
    have hfound : (Factory.declarations (program.rename old new)).flatMap
        (Factory.bindingsOf isFactory) = found.map (Tree.renamed old new) := by
      rw [List.map_flatMap]
      exact Factory.flatMap_declarations_renameFrom program false fun declaration hmem kept =>
        Factory.bindingsOf_renameFrom isFactory kept (hdeclaration _ hmem)
    rw [Factory.names, hfound, Factory.names]
    refine eraseDups_map found fun name hname other hother heq => ?_
    exact (Tree.renamed_inj (ne_of_mem_of_not_mem hname hnew)
      (ne_of_mem_of_not_mem hother hnew)).mp heq
  refine ⟨hnames, ?_⟩
  have hnew' : new ∉ Factory.names isFactory program := by
    rwa [Factory.names, List.mem_eraseDups]
  rw [hnames, ofProgram, ofProgram, Call.allImageTexts_eq_flatMap_visits,
    Call.allImageTexts_eq_flatMap_visits]
  refine congrArg _ (Tree.flatMap_visits_renameFrom program false false fun v hv kept => ?_)
  rw [Call.textsOfVisit, Call.textsOfVisit, Tree.isCallVisit, Tree.isCallVisit,
    Tree.isKind_renameFrom, Call.imageTexts_renameFrom hnew' kept (hall.node hv)]

/-- The import of a factory under a name of the program. -/
def importingAs (factory name source : String) : Tree :=
  .node "ImportDeclaration"
    [("specifiers", .list [.node "ImportSpecifier"
       [("local", .binding name), ("imported", .binding factory)]]),
     ("source", .node "StringLiteral" [("value", .text source)]),
     ("typeOnly", .bool false),
     ("phase", .text "evaluation")]

/-- A module that draws an image, and another one inside of it, with a factory under a short
name. The module also imports the name of the factory for something else. -/
def aliasedImages : Tree :=
  .compiled "Module"
    [importingAs "jsx" "h" "react/jsx-runtime",
     importingAs "h" "jsx" "./headings",
     .statement (Call.drawing "h" "components" "logo.png"
      [Call.property "children" (Call.drawing "h" "components" "./cat.png" [])])]

/-- The short name of a factory gives way to another short name. The name that a module gives to
something else stays, though it is the same. -/
theorem renaming_keeps_plan_aliased :
    aliasedImages.Throughout Tree.NamesInPlace ∧
      aliasedImages.Throughout (Factory.IsExplicit "h") ∧ "k" ∉ aliasedImages.boundNames ∧
      Factory.names (· == "jsx") (aliasedImages.rename "h" "k") = ["k"] ∧
      ofProgram ["k"] .ofAscii (.ofText "/p") (aliasedImages.rename "h" "k") =
        ofProgram ["h"] .ofAscii (.ofText "/p") aliasedImages := by
  have hplace : aliasedImages.Throughout Tree.NamesInPlace := by decide +kernel
  have hexplicit : aliasedImages.Throughout (Factory.IsExplicit "h") := by decide +kernel
  have hfresh : "k" ∉ aliasedImages.boundNames := by decide +kernel
  have hnames : Factory.names (· == "jsx") aliasedImages = ["h"] := by decide +kernel
  obtain ⟨hrenamed, hplan⟩ :=
    renaming_keeps_plan (· == "jsx") .ofAscii (.ofText "/p") hplace hexplicit hfresh
  have hk : Factory.names (· == "jsx") (aliasedImages.rename "h" "k") = ["k"] := by
    rw [hrenamed, hnames]
    rfl
  rw [hk, hnames] at hplan
  exact ⟨hplace, hexplicit, hfresh, hk, hplan⟩

end Plan

end ImageImports
