import DocumentQuery.Projection
import DocumentQuery.Proofs.Path.RoundTrip
import DocumentQuery.Regex.Standard

/-!
# Bindings of a projection

An object construction is a projection if each of its bindings is a field by
itself and no two of them have one name. They are looked at in the order of
their declaration, so the first that is no field, or whose name was there
before, decides the error.

* `Projection.IsField`, `Projection.AreFields`: the bindings of projections;
* `Projection.Refuses`: why a binding is refused that comes after others;
* `Projection.fieldsAfter_eq_ok`, `Projection.fieldsAfter_eq_error`: a list of bindings
  after some fields;
* `Projection.get?_of_mem`: the path of a field that is declared once;
* `Projection.ofExpr?_bindings`: the projections and the errors of expressions.
-/

namespace DocumentQuery.Projection

variable {field : String} {source : Expr} {earlier : List String} {path : Path} {fault : Error}
  {bindings : List (String × Expr)} {fields : List (String × Path)}

/-! ## Names -/

theorem isAlias_iff :
    isAlias field = true ↔ field ≠ "" ∧ ∀ c ∈ field.toList, Text.isControl c = false := by
  rw [isAlias, Bool.and_eq_true, Bool.not_eq_true', Bool.not_eq_true', List.any_eq_false,
    Bool.eq_false_iff, ne_eq, String.isEmpty_iff]
  simp only [Bool.not_eq_true]

theorem isAlias_eq_false_iff :
    isAlias field = false ↔ field = "" ∨ ∃ c ∈ field.toList, Text.isControl c = true := by
  rw [Bool.eq_false_iff, ne_eq, isAlias_iff, not_and_or, not_not]
  simp only [not_forall, Bool.not_eq_false, exists_prop]

/-- A field that is declared once is found under its name. -/
theorem get?_of_mem {p : Projection} {f : String × Path} (hnodup : (p.fields.map (·.1)).Nodup)
    (h : f ∈ p.fields) : p.get? f.1 = some f.2 := by
  obtain ⟨before, after, hsplit⟩ := List.append_of_mem h
  rw [get?, List.lookup_eq_some_iff]
  refine ⟨before, after, hsplit, fun g hg => bne_iff_ne.mpr fun hname => ?_⟩
  rw [hsplit, List.map_append, List.map_cons, List.nodup_append] at hnodup
  exact hnodup.2.2 _ (List.mem_map_of_mem hg) _ List.mem_cons_self hname.symm

/-! ## Fields -/

section Library

variable [RegexLibrary]

/-- A binding that is a field by itself: its name can be the name of a result column, and its
source is a chain of accesses to the document that has a path. -/
structure IsField (binding : String × Expr) : Prop where
  ne_empty : binding.1 ≠ ""
  not_isControl : ∀ c ∈ binding.1.toList, Text.isControl c = false
  isDocumentPath : binding.2.isDocumentPath = true
  exists_path : ∃ path, binding.2.path? = .ok path

/-- Bindings that are fields with names of their own. -/
structure AreFields (bindings : List (String × Expr)) : Prop where
  isField : ∀ binding ∈ bindings, IsField binding
  nodup : (bindings.map (·.1)).Nodup

/-- The reasons to refuse a binding that comes after others. Of two reasons the first one of
this list counts. -/
inductive Refuses (before : List (String × Expr)) : String × Expr → Error → Prop
  | unusableAlias {field : String} {source : Expr}
    (h : field = "" ∨ ∃ c ∈ field.toList, Text.isControl c = true) :
    Refuses before (field, source) (.projection field .unusableAlias)
  | repeated {field : String} {source : Expr} (halias : isAlias field = true)
    (h : field ∈ before.map (·.1)) : Refuses before (field, source) (.projection field .repeated)
  | notPath {field : String} {source : Expr} (halias : isAlias field = true)
    (hnew : field ∉ before.map (·.1)) (h : source.isDocumentPath = false) :
    Refuses before (field, source) (.projection field (.notPath source.kind))
  | unresolved {field : String} {source : Expr} {fault : Error} (halias : isAlias field = true)
    (hnew : field ∉ before.map (·.1)) (hsource : source.isDocumentPath = true)
    (h : source.path? = .error fault) : Refuses before (field, source) fault

/-! ## One binding -/

theorem bindingPath_eq_ok :
    bindingPath earlier field source = .ok path ↔
      isAlias field = true ∧ field ∉ earlier ∧ source.path? = .ok path := by
  simp only [bindingPath, Bool.not_eq_true', List.contains_iff_mem]
  constructor
  · intro h
    split at h
    · cases h
    split at h
    · cases h
    split at h
    · cases h
    · rename_i halias hnew _
      exact ⟨eq_true_of_ne_false halias, hnew, h⟩
  · rintro ⟨halias, hnew, hpath⟩
    rw [halias, if_neg (by decide), if_neg hnew, Expr.isDocumentPath_of_path? hpath,
      if_neg (by decide), hpath]

theorem isField_iff {binding : String × Expr} :
    IsField binding ↔ isAlias binding.1 = true ∧ ∃ path, binding.2.path? = .ok path := by
  constructor
  · rintro ⟨hne, hcontrol, _, hpath⟩
    exact ⟨isAlias_iff.mpr ⟨hne, hcontrol⟩, hpath⟩
  · rintro ⟨halias, path, hpath⟩
    obtain ⟨hne, hcontrol⟩ := isAlias_iff.mp halias
    exact ⟨hne, hcontrol, Expr.isDocumentPath_of_path? hpath, path, hpath⟩

theorem bindingPath_eq_error {before : List (String × Expr)} :
    bindingPath (before.map (·.1)).reverse field source = .error fault ↔
      Refuses before (field, source) fault := by
  simp only [bindingPath, Bool.not_eq_true', List.contains_iff_mem, List.mem_reverse]
  constructor
  · intro h
    split at h
    · rename_i halias
      cases h
      exact .unusableAlias (isAlias_eq_false_iff.mp halias)
    rename_i halias
    have halias := eq_true_of_ne_false halias
    split at h
    · rename_i hmem
      cases h
      exact .repeated halias hmem
    rename_i hnew
    split at h
    · rename_i hsource
      cases h
      exact .notPath halias hnew hsource
    · rename_i hsource
      exact .unresolved halias hnew (eq_true_of_ne_false hsource) h
  · intro h
    cases h with
    | unusableAlias h => rw [if_pos (isAlias_eq_false_iff.mpr h)]
    | repeated halias h => rw [halias, if_neg (by decide), if_pos h]
    | notPath halias hnew h => rw [halias, if_neg (by decide), if_neg hnew, h, if_pos rfl]
    | unresolved halias hnew hsource h =>
      rw [halias, if_neg (by decide), if_neg hnew, hsource, if_neg (by decide), h]

/-! ## Bindings in a row -/

/-- The field that a binding declares: its name with the path of its source. -/
def declared? (binding : String × Expr) : Except Error (String × Path) :=
  binding.2.path?.map fun path => (binding.1, path)

theorem declared?_eq_ok {binding : String × Expr} {f : String × Path} :
    declared? binding = .ok f ↔ f.1 = binding.1 ∧ binding.2.path? = .ok f.2 := by
  rw [declared?, map_eq_ok]
  constructor
  · rintro ⟨path, hpath, rfl⟩
    exact ⟨rfl, hpath⟩
  · rintro ⟨hname, hpath⟩
    exact ⟨f.2, hpath, by rw [← hname]⟩

theorem fieldsAfter_cons_eq_ok :
    fieldsAfter earlier ((field, source) :: bindings) = .ok fields ↔
      ∃ path rest, bindingPath earlier field source = .ok path ∧
        fieldsAfter (field :: earlier) bindings = .ok rest ∧ (field, path) :: rest = fields := by
  rw [fieldsAfter, bind_eq_ok]
  constructor
  · rintro ⟨path, hpath, h⟩
    obtain ⟨rest, hrest, h⟩ := bind_eq_ok.mp h
    cases h
    exact ⟨path, rest, hpath, hrest, rfl⟩
  · rintro ⟨path, rest, hpath, hrest, rfl⟩
    exact ⟨path, hpath, bind_eq_ok.mpr ⟨rest, hrest, rfl⟩⟩

theorem fieldsAfter_eq_ok :
    fieldsAfter earlier bindings = .ok fields ↔
      bindings.mapM declared? = .ok fields ∧
        (∀ binding ∈ bindings, isAlias binding.1 = true ∧ binding.1 ∉ earlier) ∧
        (bindings.map (·.1)).Nodup := by
  rw [mapM_eq_ok]
  induction bindings generalizing earlier fields with
  | nil =>
    rw [fieldsAfter, List.forall₂_nil_left_iff]
    constructor
    · rintro ⟨⟩
      exact ⟨rfl, List.forall_mem_nil _, List.nodup_nil⟩
    · rintro ⟨rfl, _⟩
      rfl
  | cons binding bindings ih =>
    obtain ⟨field, source⟩ := binding
    rw [fieldsAfter_cons_eq_ok, List.forall₂_cons_left_iff, List.forall_mem_cons, List.map_cons,
      List.nodup_cons, List.mem_map]
    simp only [ih, bindingPath_eq_ok, declared?_eq_ok]
    constructor
    · rintro ⟨path, rest, ⟨halias, hnew, hpath⟩, ⟨hrest, hbindings, hnodup⟩, rfl⟩
      refine ⟨⟨_, rest, ⟨rfl, hpath⟩, hrest, rfl⟩, ⟨⟨halias, hnew⟩, fun b hb => ?_⟩, ?_, hnodup⟩
      · exact ⟨(hbindings b hb).1, fun hmem => (hbindings b hb).2 (List.mem_cons_of_mem _ hmem)⟩
      · rintro ⟨b, hb, hname⟩
        exact (hbindings b hb).2 (hname ▸ List.mem_cons_self)
    · rintro ⟨⟨f, rest, ⟨hname, hpath⟩, hrest, rfl⟩, ⟨⟨halias, hnew⟩, hbindings⟩, hfirst, hnodup⟩
      obtain ⟨name, path⟩ := f
      cases hname
      refine ⟨path, rest, ⟨halias, hnew, hpath⟩, ⟨hrest, fun b hb => ?_, hnodup⟩, rfl⟩
      refine ⟨(hbindings b hb).1, fun hmem => ?_⟩
      rcases List.mem_cons.mp hmem with hname | hmem
      · exact hfirst ⟨b, hb, hname⟩
      · exact (hbindings b hb).2 hmem

theorem exists_fieldsAfter_eq_ok :
    (∃ fields, fieldsAfter [] bindings = .ok fields) ↔ AreFields bindings := by
  simp only [fieldsAfter_eq_ok, exists_and_right, exists_mapM_eq_ok]
  constructor
  · rintro ⟨hdeclared, hbindings, hnodup⟩
    refine ⟨fun b hb => isField_iff.mpr ⟨(hbindings b hb).1, ?_⟩, hnodup⟩
    obtain ⟨f, hf⟩ := hdeclared b hb
    exact ⟨f.2, (declared?_eq_ok.mp hf).2⟩
  · rintro ⟨hfields, hnodup⟩
    refine ⟨fun b hb => ?_, fun b hb => ?_, hnodup⟩
    · obtain ⟨path, hpath⟩ := (hfields b hb).exists_path
      exact ⟨(b.1, path), declared?_eq_ok.mpr ⟨rfl, hpath⟩⟩
    · exact ⟨(isField_iff.mp (hfields b hb)).1, List.not_mem_nil⟩

/-- The first binding that is refused decides the error. -/
theorem fieldsAfter_eq_error :
    fieldsAfter earlier bindings = .error fault ↔
      ∃ before binding after, bindings = before ++ binding :: after ∧
        (∃ fields, fieldsAfter earlier before = .ok fields) ∧
        bindingPath ((before.map (·.1)).reverse ++ earlier) binding.1 binding.2 = .error fault := by
  constructor
  · intro h
    induction bindings generalizing earlier with
    | nil => cases h
    | cons binding bindings ih =>
      obtain ⟨field, source⟩ := binding
      rw [fieldsAfter] at h
      rcases bind_eq_error.mp h with hfirst | ⟨path, hpath, h⟩
      · exact ⟨[], (field, source), bindings, rfl, ⟨[], rfl⟩, hfirst⟩
      rcases bind_eq_error.mp h with hrest | ⟨_, _, h⟩
      · obtain ⟨before, binding, after, rfl, ⟨fields, hbefore⟩, hbinding⟩ := ih hrest
        refine ⟨(field, source) :: before, binding, after, rfl, ⟨(field, path) :: fields, ?_⟩, ?_⟩
        · exact fieldsAfter_cons_eq_ok.mpr ⟨path, fields, hpath, hbefore, rfl⟩
        · rw [List.map_cons, List.reverse_cons, List.append_assoc]
          exact hbinding
      · cases h
  · rintro ⟨before, binding, after, rfl, ⟨fields, hbefore⟩, hbinding⟩
    induction before generalizing earlier fields with
    | nil =>
      obtain ⟨field, source⟩ := binding
      rw [List.nil_append, fieldsAfter]
      exact bind_eq_error.mpr (.inl hbinding)
    | cons first before ih =>
      obtain ⟨field, source⟩ := first
      obtain ⟨path, rest, hpath, hrest, rfl⟩ := fieldsAfter_cons_eq_ok.mp hbefore
      rw [List.map_cons, List.reverse_cons, List.append_assoc] at hbinding
      rw [List.cons_append, fieldsAfter]
      refine bind_eq_error.mpr (.inr ⟨path, hpath, bind_eq_error.mpr (.inl ?_)⟩)
      exact ih hbinding rest hrest

/-! ## Projections -/

theorem ofExpr?_construct {type : Option String} (h : bindings ≠ []) :
    ofExpr? (.construct type bindings) = (fieldsAfter [] bindings).map (⟨·⟩) := by
  cases bindings with
  | nil => exact absurd rfl h
  | cons binding bindings => rfl

/-- The fields of a projection are the bindings in order, and each is found under its name. -/
theorem fields_of_ofExpr? {type : Option String} {p : Projection}
    (h : ofExpr? (.construct type bindings) = .ok p) :
    List.Forall₂ (fun binding f => f.1 = binding.1 ∧ binding.2.path? = .ok f.2) bindings p.fields ∧
      ∀ binding ∈ bindings, ∃ path, binding.2.path? = .ok path ∧ p.get? binding.1 = some path := by
  have hne : bindings ≠ [] := by
    rintro rfl
    cases h
  rw [ofExpr?_construct hne] at h
  obtain ⟨fields, hfields, rfl⟩ := map_eq_ok.mp h
  obtain ⟨hdeclared, _, hnodup⟩ := fieldsAfter_eq_ok.mp hfields
  have hpairs := (mapM_eq_ok.mp hdeclared).imp fun _ _ => declared?_eq_ok.mp
  have hnames : bindings.map (·.1) = fields.map (·.1) := by
    rw [← List.forall₂_eq_eq_eq, List.forall₂_map_left_iff, List.forall₂_map_right_iff]
    exact hpairs.imp fun _ _ hpair => hpair.1.symm
  refine ⟨hpairs, fun binding hbinding => ?_⟩
  obtain ⟨f, hmem, hf⟩ := exists_mem_of_mapM hdeclared hbinding
  obtain ⟨hname, hpath⟩ := declared?_eq_ok.mp hf
  refine ⟨f.2, hpath, ?_⟩
  rw [← hname]
  exact get?_of_mem (hnames ▸ hnodup) hmem

/-- Bindings with a first one that is refused, after others that are fields. -/
theorem ofExpr?_eq_error {type : Option String} (hne : bindings ≠ []) :
    ofExpr? (.construct type bindings) = .error fault ↔
      ∃ before binding after, bindings = before ++ binding :: after ∧ AreFields before ∧
        Refuses before binding fault := by
  rw [ofExpr?_construct hne, map_eq_error, fieldsAfter_eq_error]
  simp only [exists_fieldsAfter_eq_ok, List.append_nil, bindingPath_eq_error]

/-- An expression is a projection exactly if it is a construction with bindings that are fields
with names of their own. The projection has these fields in the order of declaration, each with
the path of its source, which is found under its name. If the bindings of a construction are no
such fields, the first one decides the error that is no field or repeats a name before it. -/
theorem ofExpr?_bindings :
    (∀ e, (∃ p, ofExpr? e = .ok p) ↔
        ∃ type bindings, e = .construct type bindings ∧ bindings ≠ [] ∧ AreFields bindings) ∧
      (∀ type bindings p, ofExpr? (.construct type bindings) = .ok p →
        List.Forall₂ (fun binding f => f.1 = binding.1 ∧ binding.2.path? = .ok f.2)
            bindings p.fields ∧
          ∀ binding ∈ bindings, ∃ path, binding.2.path? = .ok path ∧
            p.get? binding.1 = some path) ∧
      ∀ type bindings fault, bindings ≠ [] →
        (ofExpr? (.construct type bindings) = .error fault ↔
          ∃ before binding after, bindings = before ++ binding :: after ∧ AreFields before ∧
            Refuses before binding fault) := by
  refine ⟨fun e => ?_, fun type bindings p => fields_of_ofExpr?,
    fun type bindings fault => ofExpr?_eq_error⟩
  constructor
  · rintro ⟨p, h⟩
    cases e with
    | construct type bindings =>
      have hne : bindings ≠ [] := by
        rintro rfl
        cases h
      rw [ofExpr?_construct hne] at h
      exact ⟨type, bindings, rfl, hne,
        exists_fieldsAfter_eq_ok.mp (exists_map_eq_ok.mp ⟨p, h⟩)⟩
    | _ => cases h
  · rintro ⟨type, bindings, rfl, hne, hfields⟩
    rw [ofExpr?_construct hne]
    exact exists_map_eq_ok.mpr (exists_fieldsAfter_eq_ok.mpr hfields)

end Library

/-- Two fields out of alphabetical order, and a third binding that repeats a name before its
source is looked at. -/
theorem ofExpr?_bindings_repeated :
    let fields := [("Zeta", Expr.member .parameter "Z"), ("Alpha", Expr.parameter)]
    let projection : Projection := ⟨[("Zeta", ⟨[.field "Z"]⟩), ("Alpha", .root)]⟩
    ofExpr? (.construct none fields) = .ok projection ∧
      projection.get? "Alpha" = some .root ∧
      ofExpr? (.construct none (fields ++ [("Zeta", .constant .null), ("", .parameter)])) =
        .error (.projection "Zeta" .repeated) := by
  intro fields projection
  have hok : ofExpr? (.construct none fields) = .ok projection := rfl
  obtain ⟨hiff, hfields, herror⟩ := ofExpr?_bindings
  refine ⟨hok, ?_, (herror none _ _ (List.cons_ne_nil _ _)).mpr ?_⟩
  · obtain ⟨path, hpath, hget⟩ := (hfields none fields projection hok).2 ("Alpha", .parameter)
      (List.mem_cons_of_mem _ List.mem_cons_self)
    cases hpath
    exact hget
  · obtain ⟨type, bindings, heq, _, hdeclared⟩ := (hiff _).mp ⟨projection, hok⟩
    cases heq
    exact ⟨fields, _, [("", .parameter)], rfl, hdeclared, .repeated rfl List.mem_cons_self⟩

end DocumentQuery.Projection
