import DocumentQuery.Proofs.Sql.Ddl
import DocumentQuery.Proofs.Sql.SourcePath
import DocumentQuery.Proofs.Table.CreateText
import DocumentQuery.Store.Catalog

/-!
# Columns read back from the text of a table

The text of a document table grows by a definition with each column that is
added, and the expression of a column is searched in it. What is found is the
expression that was written, unless the literal of a column that was added
before has text in it that looks like the definition.

* `upToClose?_call`: a written call is taken up to its end;
* `storedText`: the text after columns were added (`toList_foldlM_withColumn`);
* `findDefinition?_own`, `findDefinition?_other`, `findDefinition?_createTable`:
  the search at the definition of the column itself, at those of others and in
  the statement that created the table;
* `HasNoCall`, `hasNoCall_literal`: no call is read from inside a literal;
* `findDefinition?_storedText`: where the search stops;
* `expression?_storedText`: what is found.
-/

namespace DocumentQuery.CreateText

variable {name function column cs rest : List Char}

/-! ## Up to the end of a call -/

theorem upToClose?_inString {string : List Char} (h : '\'' ∉ string) (depth : Nat)
    (rest : List Char) :
    upToClose? depth true (string ++ '\'' :: rest) =
      (upToClose? depth false rest).map (string ++ '\'' :: ·) := by
  induction string with
  | nil =>
    rw [List.nil_append, upToClose?, if_pos rfl]
    rfl
  | cons c string ih =>
    rw [List.mem_cons, not_or] at h
    rw [List.cons_append, upToClose?, if_neg (Ne.symm h.1), if_pos rfl, ih h.2, Option.map_map]
    rfl

/-- A text whose parentheses match does not close the one that is open before it. -/
theorem upToClose?_closed {text : List Char} (h : Sql.IsClosed text) (depth : Nat)
    (rest : List Char) :
    upToClose? (depth + 1) false (text ++ rest) =
      (upToClose? (depth + 1) false rest).map (text ++ ·) := by
  induction h generalizing depth rest with
  | nil => simp
  | append _ _ ihc ihd =>
    rw [List.append_assoc, ihc, ihd, Option.map_map]
    simp only [Function.comp_def, List.append_assoc]
  | char hquote hopen hclose =>
    rw [List.singleton_append, upToClose?, if_neg hquote, if_neg (by decide), if_neg hopen,
      if_neg hclose]
    rfl
  | literal h =>
    rw [List.cons_append, List.append_assoc, upToClose?, if_pos rfl, List.singleton_append,
      Bool.not_false, upToClose?_inString h, Option.map_map]
    simp only [Function.comp_def, List.cons_append, List.append_assoc, List.nil_append]
  | parens _ ih =>
    rw [List.cons_append, List.append_assoc, upToClose?, if_neg (by decide), if_neg (by decide),
      if_pos rfl, ih]
    simp [upToClose?, Function.comp_def]

/-- A written call is taken up to its end. -/
theorem upToClose?_call (hfunction : Text.isWord function = true)
    (hcolumn : Text.isWord column = true) (string rest : List Char) :
    upToClose? 1 false (Sql.callChars function column string ++ ')' :: rest) =
      some (Sql.callChars function column string) := by
  have hclosed := (Sql.isCall_callChars function column string).isClosed hfunction hcolumn
  have hlast : upToClose? 1 false (')' :: rest) = some [] := by simp [upToClose?]
  rw [upToClose?_closed hclosed 0, hlast, Option.map_some, List.append_nil]

/-! ## The text of a table -/

/-- The text of a table after a statement on it. -/
def grown (text : String) : Ddl → String
  | .addColumn _ column affinity expression =>
    Catalog.addDefinition (Ddl.generatedColumn column affinity expression) text
  | _ => text

/-- The text of a table that a column is added to. -/
def withColumn (s : Settings) (table text : String) (c : VirtualColumn) : Except Error String := do
  let added ← Ddl.virtualColumn s table c.name c.path c.affinity
  return grown text added

/-- The text of a document table that columns were added to, one after another. -/
def storedText (s : Settings) (table : String) (ifNotExists : Bool)
    (columns : List VirtualColumn) : Except Error String := do
  let created ← Ddl.documentTable s table ifNotExists
  columns.foldlM (withColumn s table) created.text

/-- The characters that a column adds. -/
def addedChars (s : Settings) (c : VirtualColumn) : List Char :=
  ',' :: ' ' :: (Ddl.generatedColumn c.name c.affinity (s.extraction.text c.path)).toList

/-- Every column adds its characters before the final parenthesis. -/
theorem toList_foldlM_withColumn (s : Settings) {table text : String}
    (htable : Sql.checkName table = .ok ()) {columns : List VirtualColumn}
    (hcolumns : ∀ c ∈ columns, Sql.checkName c.name = .ok ()) {body : List Char}
    (htext : text.toList = body ++ [')']) :
    ∃ stored, columns.foldlM (withColumn s table) text = .ok stored ∧
      stored.toList = body ++ (columns.flatMap (addedChars s) ++ [')']) := by
  induction columns generalizing text body with
  | nil => exact ⟨text, rfl, htext⟩
  | cons c columns ih =>
    rw [List.forall_mem_cons] at hcolumns
    have hadded := Ddl.virtualColumn_of_checkName s c.path c.affinity htable hcolumns.1
    have hgrown : withColumn s table text c = .ok (grown text _) :=
      bind_eq_ok.mpr ⟨_, hadded, rfl⟩
    have htext : (grown text
        (.addColumn table c.name c.affinity (s.extraction.text c.path))).toList =
          (body ++ addedChars s c) ++ [')'] := by
      simp [grown, Catalog.addDefinition, htext, addedChars]
    obtain ⟨stored, hstored, hchars⟩ := ih hcolumns.2 htext
    refine ⟨stored, bind_eq_ok.mpr ⟨_, hgrown, hstored⟩, ?_⟩
    rw [hchars, List.flatMap_cons]
    simp only [List.append_assoc]

/-! ## The definitions in it -/

variable {s : Settings} {c d : VirtualColumn}

/-- The characters of the definition of a generated column. -/
theorem toList_generatedColumn {name : String} (h : Text.isWord name.toList = true)
    (affinity : Affinity) (expression : String) :
    (Ddl.generatedColumn name affinity expression).toList =
      '"' :: (name.toList ++ '"' :: ' ' :: ((affinity.name.toList ++ " GENERATED ALWAYS ".toList) ++
        'A' :: 'S' :: ' ' :: '(' :: (expression.toList ++ ") VIRTUAL".toList))) := by
  have hquote := Text.not_mem_of_isWord h (d := '"') (by decide)
  simp [Ddl.generatedColumn, Sql.quoteName, Text.enclose, Text.double_eq_self hquote]

/-- The definition of the column itself. -/
theorem findDefinition?_own (h : Text.isWord c.name.toList = true) (rest : List Char) :
    findDefinition? c.name.toList (addedChars s c ++ rest) =
      some ((s.extraction.text c.path).toList ++ (") VIRTUAL".toList ++ rest)) := by
  have hclear : isClear (c.affinity.name.toList ++ " GENERATED ALWAYS ".toList) = true := by
    cases c.affinity <;> decide +kernel
  have hblank (rest : List Char) : Text.skipBlank (c.affinity.name.toList ++ rest) =
      c.affinity.name.toList ++ rest := by
    cases c.affinity <;> rfl
  have hassoc : addedChars s c ++ rest =
      ',' :: ' ' :: '"' :: (c.name.toList ++ '"' :: ' ' ::
        ((c.affinity.name.toList ++ " GENERATED ALWAYS ".toList) ++ 'A' :: 'S' :: ' ' :: '(' ::
          ((s.extraction.text c.path).toList ++ (") VIRTUAL".toList ++ rest)))) := by
    rw [addedChars, toList_generatedColumn h]
    simp
  rw [hassoc, findDefinition?_cons, if_pos (.inr rfl), inDefinition?_blank h rfl,
    inDefinition?_own h, List.append_assoc, hblank, ← List.append_assoc, afterNextAs?_clear hclear, afterNextAs?_as,
    Option.some_or]

/-- The definition of another column is passed but for its literal. -/
theorem findDefinition?_other (hs : s.IsChecked) (hname : Text.isWord name = true)
    (hd : Text.isWord d.name.toList = true)
    (hother : Text.sameIgnoringCase name d.name.toList = false)
    (hcolumn : Text.sameIgnoringCase name s.documentColumn.toList = false) (rest : List Char) :
    findDefinition? name (addedChars s d ++ ',' :: rest) =
      ((findDefinition? name d.path.literal.toList).map
        (· ++ (")) VIRTUAL".toList ++ ',' :: rest))).or (findDefinition? name (',' :: rest)) := by
  have hfunction := Sql.isWord_of_checkName hs.extractFunction
  have hdocument := Sql.isWord_of_checkName hs.documentColumn
  have htail : afterNextAs? (")) VIRTUAL".toList ++ ',' :: rest) = none := by
    rw [afterNextAs?_clear (by decide +kernel), afterNextAs?_comma]
  have hliteral : d.path.literal.toList =
      ('\'' :: Text.double '\'' d.path.chars) ++ '\'' :: [] := by
    simp [Path.literal, Text.enclose]
  have hassoc : addedChars s d ++ ',' :: rest =
      ',' :: ' ' :: '"' :: (d.name.toList ++ '"' ::
        (' ' :: (d.affinity.name.toList ++ " GENERATED ALWAYS AS ".toList) ++ '(' ::
         (s.extractFunction.toList ++ '(' :: '"' :: (s.documentColumn.toList ++ '"' ::
        ',' :: ' ' :: '\'' :: (Text.double '\'' d.path.chars ++ '\'' ::
          (")) VIRTUAL".toList ++ ',' :: rest)))))) := by
    rw [addedChars, toList_generatedColumn hd, Extraction.toList_text hs.documentColumn]
    simp [Sql.callChars, Text.enclose, Settings.extraction]
  have hplain : (' ' :: (d.affinity.name.toList ++ " GENERATED ALWAYS AS ".toList)).all
      (fun c => c != '(' && c != ',') = true := by
    cases d.affinity <;> decide
  have hown (rest : List Char) :
      inDefinition? name (' ' :: '"' :: (d.name.toList ++ '"' :: rest)) = none := by
    rw [inDefinition?_blank hname (by decide), inDefinition?_quoted hname hd hother]
  have hstring (rest : List Char) : inDefinition? name (' ' :: '\'' :: rest) = none := by
    rw [inDefinition?_blank hname (by decide), inDefinition?_apostrophe hname]
  have hcall (rest : List Char) :
      inDefinition? name (s.extractFunction.toList ++ '(' :: rest) = none :=
    inDefinition?_bare hname hfunction (by decide) (by decide)
      (fun hblank => absurd hblank (by decide)) rest
  rw [hassoc, findDefinition?_of_not_inDefinition (hown _), findDefinition?_cons_of_ne (by decide),
    findDefinition?_quoted hd, findDefinition?_plain hplain,
    findDefinition?_of_not_inDefinition (hcall _), findDefinition?_word hfunction,
    findDefinition?_of_not_inDefinition (inDefinition?_quoted hname hdocument hcolumn _),
    findDefinition?_quoted hdocument, findDefinition?_of_not_inDefinition (hstring _),
    findDefinition?_cons_of_ne (by decide), ← List.cons_append,
    findDefinition?_apostrophe hname htail, findDefinition?_plain (by decide), hliteral,
    findDefinition?_apostrophe hname rfl, findDefinition?, Option.or_none, Option.map_map]
  simp only [Function.comp_def, List.append_assoc, List.singleton_append]

/-! ## The search in the whole text -/

theorem toList_quoteName {word : String} (h : Text.isWord word.toList = true) :
    (Sql.quoteName word).toList = '"' :: (word.toList ++ ['"']) := by
  have hword := Text.double_eq_self (Text.not_mem_of_isWord h (d := '"') (by decide))
  rw [Sql.quoteName, String.toList_ofList, Text.enclose, hword, List.cons_append]

/-- The characters of the statement that creates a table. -/
theorem toList_createTable {table key document : String} (ifNotExists : Bool)
    (htable : Text.isWord table.toList = true) (hkey : Text.isWord key.toList = true)
    (hdocument : Text.isWord document.toList = true) :
    (Ddl.createTable ifNotExists table key document).text.toList =
      "CREATE TABLE ".toList ++ (if ifNotExists then "IF NOT EXISTS " else "").toList ++
        '"' :: (table.toList ++ '"' :: ' ' :: '(' :: '"' :: (key.toList ++ '"' ::
          (" TEXT PRIMARY KEY".toList ++ ',' :: ' ' :: '"' :: (document.toList ++ '"' ::
            (" TEXT NOT NULL".toList ++ [')']))))) := by
  have htext : (Ddl.createTable ifNotExists table key document).text =
      "CREATE TABLE " ++ (if ifNotExists then "IF NOT EXISTS " else "") ++ Sql.quoteName table ++
        " " ++ Ddl.documentColumns key document := rfl
  have hspace : " ".toList = [' '] := rfl
  have hopen : "(".toList = ['('] := rfl
  have hcomma : " TEXT PRIMARY KEY, ".toList = " TEXT PRIMARY KEY".toList ++ [',', ' '] := rfl
  have hclose : " TEXT NOT NULL)".toList = " TEXT NOT NULL".toList ++ [')'] := rfl
  rw [htext, Ddl.documentColumns]
  simp only [String.toList_append, toList_quoteName htable, toList_quoteName hkey,
    toList_quoteName hdocument, hspace, hopen, hcomma, hclose, List.append_assoc, List.cons_append,
    List.nil_append]

/-- The statement that creates a table is passed, but for its closing parenthesis. -/
theorem findDefinition?_createTable {table key document : String} (ifNotExists : Bool)
    (htable : Text.isWord table.toList = true) (hkey : Text.isWord key.toList = true)
    (hdocument : Text.isWord document.toList = true) (hname : Text.isWord name = true)
    (hcreate : Text.sameIgnoringCase name "CREATE".toList = false)
    (hnotkey : Text.sameIgnoringCase name key.toList = false)
    (hnotdocument : Text.sameIgnoringCase name document.toList = false) :
    ∃ body, (Ddl.createTable ifNotExists table key document).text.toList = body ++ [')'] ∧
      ∀ rest, inDefinition? name (body ++ rest) = none ∧
        findDefinition? name (body ++ rest) = findDefinition? name rest := by
  have hplain : ("CREATE TABLE ".toList ++
      (if ifNotExists then "IF NOT EXISTS " else "").toList).all
        (fun c => c != '(' && c != ',') = true := by
    cases ifNotExists <;> decide
  have hcreateword : "CREATE TABLE ".toList = "CREATE".toList ++ ' ' :: "TABLE ".toList := rfl
  have hdefinition (rest : List Char) :
      inDefinition? name (' ' :: '"' :: (document.toList ++ '"' :: rest)) = none := by
    rw [inDefinition?_blank hname (by decide), inDefinition?_quoted hname hdocument hnotdocument]
  refine ⟨"CREATE TABLE ".toList ++ (if ifNotExists then "IF NOT EXISTS " else "").toList ++
    '"' :: (table.toList ++ '"' :: ' ' :: '(' :: '"' :: (key.toList ++ '"' ::
      (" TEXT PRIMARY KEY".toList ++ ',' :: ' ' :: '"' :: (document.toList ++ '"' ::
        " TEXT NOT NULL".toList)))), ?_, fun rest => ⟨?_, ?_⟩⟩
  · rw [toList_createTable ifNotExists htable hkey hdocument]
    simp only [List.append_assoc, List.cons_append]
  · rw [hcreateword]
    simp only [List.append_assoc, List.cons_append]
    exact inDefinition?_bare hname (by decide) (by decide) (by decide) (fun _ => hcreate) _
  · rw [List.append_assoc, findDefinition?_plain hplain]
    simp only [List.append_assoc, List.cons_append]
    rw [findDefinition?_quoted htable, findDefinition?_cons_of_ne (by decide),
      findDefinition?_of_not_inDefinition (inDefinition?_quoted hname hkey hnotkey _),
      findDefinition?_quoted hkey, findDefinition?_plain (by decide),
      findDefinition?_of_not_inDefinition (hdefinition _), findDefinition?_cons_of_ne (by decide),
      findDefinition?_quoted hdocument, findDefinition?_plain (by decide)]

/-! ## Literals have no calls in them -/

/-- Nowhere in a text does a word in double quotes follow a parenthesis. -/
def HasNoCall (cs : List Char) : Prop :=
  ∀ c rest, Text.isWordChar c = true → ¬ '(' :: '"' :: c :: rest <:+ cs

namespace HasNoCall

variable {c : Char}

theorem suffix (h : HasNoCall cs) (hrest : rest <:+ cs) : HasNoCall rest :=
  fun c more hc hmore => h c more hc (hmore.trans hrest)

theorem of_not_mem (h : '"' ∉ cs) : HasNoCall cs := fun _ _ _ hsuffix =>
  h (hsuffix.subset (List.mem_cons_of_mem _ List.mem_cons_self))

theorem cons (h : HasNoCall cs) (hc : c ≠ '(') : HasNoCall (c :: cs) := by
  intro d rest hd hsuffix
  rcases List.suffix_cons_iff.mp hsuffix with heq | hsuffix
  · cases heq
    exact hc rfl
  · exact h d rest hd hsuffix

/-- A text that goes on neither with a quote nor with a word. -/
theorem append {more : List Char} (h : HasNoCall cs) (hmore : HasNoCall more)
    (hhead : ∀ c ∈ more.head?, c ≠ '"' ∧ Text.isWordChar c = false) : HasNoCall (cs ++ more) := by
  induction cs with
  | nil => exact hmore
  | cons x cs ih =>
    intro d rest hd hsuffix
    rcases List.suffix_cons_iff.mp hsuffix with heq | hsuffix
    · obtain ⟨rfl, htail⟩ := List.cons.inj heq
      rcases cs with _ | ⟨y, _ | ⟨z, cs⟩⟩
      · obtain rfl : more = '"' :: d :: rest := htail.symm
        exact (hhead '"' rfl).1 rfl
      · obtain rfl : more = d :: rest := (List.cons.inj htail).2.symm
        cases hd.symm.trans (hhead d rfl).2
      · cases htail
        exact h d cs hd List.suffix_rfl
    · exact ih (h.suffix (List.suffix_cons x cs)) d rest hd hsuffix

/-- A quote at the end opens nothing. -/
theorem concat (h : '"' ∉ cs) : HasNoCall (cs ++ ['"']) := by
  rintro d rest _ ⟨before, heq⟩
  have hlast := congrArg List.dropLast heq
  rw [List.dropLast_concat] at hlast
  refine h (hlast ▸ ?_)
  rw [List.dropLast_append_of_ne_nil (by simp)]
  simp [List.dropLast]

/-- A doubled apostrophe is no part of a call. -/
theorem double (h : HasNoCall cs) : HasNoCall (Text.double '\'' cs) := by
  induction cs with
  | nil => exact h
  | cons x cs ih =>
    have hrest := ih (h.suffix (List.suffix_cons x cs))
    rw [Text.double]
    split
    · exact (hrest.cons (by decide)).cons (by decide)
    · intro d rest hd hsuffix
      rcases List.suffix_cons_iff.mp hsuffix with heq | hsuffix
      · obtain ⟨rfl, htail⟩ := List.cons.inj heq
        obtain ⟨_, rfl, hmore⟩ := Text.eq_cons_of_double (by decide) htail.symm
        obtain ⟨_, rfl, _⟩ := Text.eq_cons_of_double (Text.ne_of_isWordChar hd (by decide)) hmore
        exact h d _ hd List.suffix_rfl
      · exact hrest d rest hd hsuffix

end HasNoCall

theorem hasNoCall_chars {segment : Path.Segment} (h : segment.IsWritable) :
    HasNoCall segment.chars := by
  cases segment with
  | field name =>
    have hquote : '"' ∉ name.toList := fun hmem =>
      Path.ne_quote_of_isName (Path.checkName_eq_ok.mp h) _ hmem rfl
    rw [Path.Segment.chars]
    split
    · exact (HasNoCall.of_not_mem hquote).cons (by decide)
    · exact ((HasNoCall.concat hquote).cons (by decide)).cons (by decide)
  | index position =>
    refine HasNoCall.of_not_mem fun hmem => ?_
    simp only [Path.Segment.chars, List.mem_cons, List.mem_append, List.not_mem_nil,
      or_false] at hmem
    rcases hmem with (hopen | hdigit) | hclose
    · cases hopen
    · exact absurd (Nat.isDigit_of_mem_toDigits (by decide) (by decide) hdigit) (by decide)
    · cases hclose

/-- The literal of a path has no call in it. -/
theorem hasNoCall_literal {p : Path} (hp : p.IsWritable) : HasNoCall p.literal.toList := by
  have hbreak {cs : List Char} (h : ∀ c ∈ cs.head?, Path.isBreak c = true) :
      ∀ c ∈ cs.head?, c ≠ '"' ∧ Text.isWordChar c = false := by
    intro c hc
    have hc := h c hc
    simp only [Path.isBreak, Bool.or_eq_true, beq_iff_eq] at hc
    rcases hc with rfl | rfl <;> decide
  have hsegments (segments : List Path.Segment)
      (hall : ∀ segment ∈ segments, segment.IsWritable) :
      HasNoCall (segments.flatMap Path.Segment.chars) := by
    induction segments with
    | nil => exact .of_not_mem List.not_mem_nil
    | cons segment segments ih =>
      rw [List.forall_mem_cons] at hall
      have hhead := hbreak (Path.isBreak_head?_flatten (Path.spelledAs_map_chars hall.2))
      rw [← List.flatMap_def] at hhead
      rw [List.flatMap_cons]
      exact (hasNoCall_chars hall.1).append (ih hall.2) hhead
  have hchars : HasNoCall p.chars := (hsegments p.segments hp).cons (by decide)
  have hquote : HasNoCall ['\''] := .of_not_mem (by decide)
  rw [Path.literal, String.toList_ofList, Text.enclose]
  exact (hchars.double.append hquote (by simp; decide)).cons (by decide)

/-! ## What is found in a literal -/

theorem prefix_of_upToClose? {depth : Nat} {inString : Bool} {taken : List Char}
    (h : upToClose? depth inString cs = some taken) : taken <+: cs := by
  have hcons {c : Char} {cs : List Char} {more : Option (List Char)} {taken : List Char}
      (h : more.map (c :: ·) = some taken) (ih : ∀ x, more = some x → x <+: cs) :
      taken <+: c :: cs := by
    obtain ⟨x, hx, rfl⟩ := Option.map_eq_some_iff.mp h
    exact (List.prefix_cons_inj c).mpr (ih x hx)
  fun_induction upToClose? depth inString cs generalizing taken
  case case1 => cases h
  case case5 =>
    cases h
    exact List.nil_prefix
  case case2 ih | case3 ih | case4 ih | case6 ih | case7 ih => exact hcons h fun _ => ih

/-- A call is not read from inside a literal. -/
theorem trim_upToClose?_ne {found tail taken : List Char} (hfound : HasNoCall found)
    (hlast : '\'' ∈ found) (hfunction : Text.isWord function = true)
    (hcolumn : Text.isWord column = true)
    (h : upToClose? 1 false (found ++ tail) = some taken) (string : List Char) :
    Text.trim taken ≠ Sql.callChars function column string := by
  intro hcall
  obtain ⟨blanks, more, htaken, hblanks⟩ := Text.exists_trim taken
  obtain ⟨rest, hrest⟩ := prefix_of_upToClose? h
  cases column with
  | nil => cases hcolumn
  | cons c column =>
    have hc := Text.isWordChar_of_mem hcolumn List.mem_cons_self
    have happend : ∃ others, (blanks ++ function ++ ['(', '"', c]) ++ others = found ++ tail := by
      refine ⟨column ++ '"' :: ',' :: ' ' :: (Text.enclose '\'' string ++ [')']) ++ more ++ rest,
        ?_⟩
      rw [← hrest, htaken, hcall, Sql.callChars]
      simp
    obtain ⟨others, happend⟩ := happend
    rcases List.append_eq_append_iff.mp happend with ⟨inside, heq, -⟩ | ⟨inside, heq, -⟩
    · -- the call would stand in the literal
      refine hfound c inside hc ⟨blanks ++ function, ?_⟩
      rw [heq]
      simp
    · -- the end of the literal would stand before the column
      have hmem : '\'' ∈ blanks ++ function ++ ['(', '"', c] := heq ▸ List.mem_append_left _ hlast
      simp only [List.mem_append, List.mem_cons, List.not_mem_nil, or_false] at hmem
      rcases hmem with (hblank | hword) | hopen | hquote | hname
      · exact absurd (hblanks _ hblank) (by decide)
      · exact Text.not_mem_of_isWord hfunction (by decide) hword
      · cases hopen
      · cases hquote
      · exact Text.ne_of_isWordChar hc (by decide) hname.symm

/-- What is found in the literal of a path ends as the literal does. -/
theorem mem_of_findDefinition? (hname : Text.isWord name = true) {p : Path} {found : List Char}
    (h : findDefinition? name p.literal.toList = some found) : '\'' ∈ found := by
  have hlast : p.literal.toList.getLast? = some '\'' := by
    rw [Path.literal, String.toList_ofList, Text.enclose, List.getLast?_concat]
  obtain ⟨before, hbefore⟩ := suffix_of_findDefinition? hname h
  cases found with
  | nil =>
    rw [← hbefore, List.getLast?_concat] at hlast
    cases hlast
  | cons c found =>
    rw [← hbefore, List.getLast?_append, List.getLast?_cons_cons] at hlast
    exact List.mem_of_getLast? hlast

/-! ## What is found -/

/-- The definitions of other columns are passed but for the first literal in which something
is found. -/
theorem findDefinition?_before (hs : s.IsChecked) (before : List VirtualColumn)
    (hname : Text.isWord name = true)
    (hcolumn : Text.sameIgnoringCase name s.documentColumn.toList = false)
    (hword : ∀ d ∈ before, Text.isWord d.name.toList = true)
    (hother : ∀ d ∈ before, Text.sameIgnoringCase name d.name.toList = false) (rest : List Char) :
    ∃ tail, findDefinition? name (before.flatMap (addedChars s) ++ ',' :: rest) =
      ((before.findSome? fun d => findDefinition? name d.path.literal.toList).map (· ++ tail)).or
        (findDefinition? name (',' :: rest)) := by
  induction before with
  | nil => exact ⟨[], rfl⟩
  | cons d before ih =>
    rw [List.forall_mem_cons] at hword hother
    obtain ⟨tail, ih⟩ := ih hword.2 hother.2
    obtain ⟨more, hmore⟩ : ∃ more, before.flatMap (addedChars s) ++ ',' :: rest = ',' :: more := by
      cases before with
      | nil => exact ⟨rest, rfl⟩
      | cons d before => exact ⟨_, rfl⟩
    rw [List.flatMap_cons, List.append_assoc, hmore,
      findDefinition?_other hs hname hword.1 hother.1 hcolumn, ← hmore, ih, List.findSome?_cons]
    cases findDefinition? name d.path.literal.toList with
    | none => exact ⟨tail, rfl⟩
    | some found => exact ⟨_, rfl⟩

/-- What an expression is, by where the search stops. -/
theorem expression?_eq {text name : String} (hstart : inDefinition? name.toList text.toList = none)
    (hfound : findDefinition? name.toList text.toList = some rest) :
    expression? text name =
      (upToClose? 1 false rest).map fun taken => String.ofList (Text.trim taken) := by
  have hrest : ((inDefinition? name.toList text.toList).orElse fun _ =>
      findDefinition? name.toList text.toList) = some rest := by
    rw [hstart]
    exact hfound
  rw [expression?, hrest, Option.bind_eq_bind, Option.bind_some, Option.map_eq_bind]
  rfl

/-- Columns for paths, with names that a store keeps apart. -/
structure Fits (s : Settings) (columns : List VirtualColumn) : Prop where
  isWritable : ∀ c ∈ columns, c.path.IsWritable
  columnName : ∀ c ∈ columns, c.path.columnName s = .ok c.name
  keyColumn : ∀ c ∈ columns, Text.sameIgnoringCase c.name.toList s.keyColumn.toList = false
  documentColumn :
    ∀ c ∈ columns, Text.sameIgnoringCase c.name.toList s.documentColumn.toList = false
  pairwise : columns.Pairwise fun d c => Text.sameIgnoringCase c.name.toList d.name.toList = false

/-- The search in the text of a table stops in the first literal before the column in which
something is found, else at the definition of the column. -/
theorem findDefinition?_storedText {table : String} (before after : List VirtualColumn)
    (hs : s.IsChecked) (htable : Sql.checkName table = .ok ())
    (hfits : Fits s (before ++ c :: after)) (ifNotExists : Bool) :
    ∃ text tail rest, storedText s table ifNotExists (before ++ c :: after) = .ok text ∧
      inDefinition? c.name.toList text.toList = none ∧
      findDefinition? c.name.toList text.toList =
        ((before.findSome? fun d => findDefinition? c.name.toList d.path.literal.toList).map
          (· ++ tail)).or (some ((s.extraction.text c.path).toList ++ ')' :: rest)) := by
  have hc : c ∈ before ++ c :: after := by simp
  have hnames : ∀ d ∈ before ++ c :: after, Sql.checkName d.name = .ok () := fun d hd =>
    (Path.columnName_eq_ok.mp (hfits.columnName d hd)).2
  have hname := Sql.isWord_of_checkName (hnames c hc)
  have hcreate : Text.sameIgnoringCase c.name.toList "CREATE".toList = false :=
    Bool.eq_false_iff.mpr
      (List.any_eq_false.mp (Sql.not_isReserved_of_checkName (hnames c hc)) "CREATE" (by decide))
  obtain ⟨body, hbody, hcreated⟩ := findDefinition?_createTable ifNotExists
    (Sql.isWord_of_checkName htable) (Sql.isWord_of_checkName hs.keyColumn)
    (Sql.isWord_of_checkName hs.documentColumn) hname hcreate (hfits.keyColumn c hc)
    (hfits.documentColumn c hc)
  obtain ⟨text, htext, hchars⟩ := toList_foldlM_withColumn s htable hnames hbody
  obtain ⟨tail, hbefore⟩ := findDefinition?_before hs before hname (hfits.documentColumn c hc)
    (fun d hd => Sql.isWord_of_checkName (hnames d (by simp [hd])))
    (fun d hd => (List.pairwise_append.mp hfits.pairwise).2.2 d hd c List.mem_cons_self)
    (addedChars s c ++ (after.flatMap (addedChars s) ++ [')'])).tail
  have hown := findDefinition?_own (s := s) hname (after.flatMap (addedChars s) ++ [')'])
  refine ⟨text, tail, " VIRTUAL".toList ++ (after.flatMap (addedChars s) ++ [')']),
    bind_eq_ok.mpr ⟨_, Ddl.documentTable_eq_ok.mpr ⟨htable, rfl⟩, htext⟩,
    hchars ▸ (hcreated _).1, ?_⟩
  rw [hchars, (hcreated _).2, List.flatMap_append, List.flatMap_cons, List.append_assoc,
    List.append_assoc]
  exact hown ▸ hbefore

/-- Columns are added for paths, under names that a store keeps apart, to a new table. The
expression that is found for a column is the one that was written, and recognised as one for
the path, unless the literal of a column before has text in it like a definition. -/
theorem expression?_storedText {table : String} {before after : List VirtualColumn}
    (hcheck : s.check = .ok ()) (htable : Sql.checkName table = .ok ())
    (hfits : Fits s (before ++ c :: after)) (ifNotExists : Bool) :
    ∃ text, storedText s table ifNotExists (before ++ c :: after) = .ok text ∧
      (expression? text c.name = some (s.extraction.text c.path) ↔
        ∀ d ∈ before, findDefinition? c.name.toList d.path.literal.toList = none) ∧
      s.extraction.sourcePath? (s.extraction.text c.path) = some c.path := by
  have hs := Settings.isChecked hcheck
  have hc : c ∈ before ++ c :: after := by simp
  have hfunction : Text.isWord s.extraction.function.toList = true :=
    Sql.isWord_of_checkName hs.extractFunction
  have hdocument : Text.isWord s.extraction.column.toList = true :=
    Sql.isWord_of_checkName hs.documentColumn
  have hwritten := Extraction.toList_text (e := s.extraction) hs.documentColumn c.path
  obtain ⟨text, tail, rest, htext, hstart, hsearch⟩ :=
    findDefinition?_storedText before after hs htable hfits ifNotExists
  refine ⟨text, htext, ?_,
    Extraction.sourcePath?_text hs.extractFunction hs.documentColumn (hfits.isWritable c hc)⟩
  cases hfirst : before.findSome? fun d => findDefinition? c.name.toList d.path.literal.toList with
  | none =>
    rw [hfirst] at hsearch
    refine iff_of_true ?_ (List.findSome?_eq_none_iff.mp hfirst)
    rw [expression?_eq hstart hsearch, hwritten, upToClose?_call hfunction hdocument,
      Option.map_some, Sql.trim_call hfunction, ← hwritten, String.ofList_toList]
  | some found =>
    rw [hfirst] at hsearch
    obtain ⟨d, hd, hfound⟩ := List.exists_of_findSome?_eq_some hfirst
    refine iff_of_false (fun hexpression => ?_) fun hnone => ?_
    · rw [expression?_eq hstart hsearch] at hexpression
      obtain ⟨taken, htaken, heq⟩ := Option.map_eq_some_iff.mp hexpression
      have hname := Sql.isWord_of_checkName (Path.columnName_eq_ok.mp (hfits.columnName c hc)).2
      have hliteral := hasNoCall_literal (hfits.isWritable d (by simp [hd]))
      have hfollows := suffix_of_findDefinition? hname hfound
      refine trim_upToClose?_ne (hliteral.suffix ((List.suffix_cons _ _).trans hfollows))
        (mem_of_findDefinition? hname hfound) hfunction hdocument htaken c.path.chars ?_
      rw [← hwritten, ← heq, String.toList_ofList]
    · cases hfound.symm.trans (hnone d hd)

theorem expression?_storedText_separators :
    let before := [⟨⟨[.field "as, (set)"]⟩, "vc_as___set_", .text⟩]
    let c := ⟨⟨[.field "Set", .index 0]⟩, "vc_Set_0", .integer⟩
    Settings.check {} = .ok () ∧ Sql.checkName "docs" = .ok () ∧ Fits {} (before ++ [c]) ∧
      ∃ text, storedText {} "docs" true (before ++ [c]) = .ok text ∧
        expression? text "vc_Set_0" = some "json_extract(\"data\", '$.Set[0]')" := by
  intro before c
  have hfits : Fits {} (before ++ [c]) :=
    ⟨by decide, by decide, by decide, by decide, by decide⟩
  have hliteral : ∀ d ∈ before, findDefinition? c.name.toList d.path.literal.toList = none := by
    decide +kernel
  have htable : Sql.checkName "docs" = .ok () := by decide
  obtain ⟨text, htext, hexpression, -⟩ :=
    expression?_storedText (by decide) htable hfits true
  exact ⟨by decide, htable, hfits, text, htext, hexpression.mpr hliteral⟩

/-- The expression of `vc_b` is read from the literal of the column before it. -/
theorem expression?_storedText_lookalike :
    let first := ⟨⟨[.field ",vc_b AS (x)"]⟩, "vc__vc_b_AS__x_", .text⟩
    let second := ⟨⟨[.field "b"]⟩, "vc_b", .text⟩
    Settings.check {} = .ok () ∧ Sql.checkName "docs" = .ok () ∧ Fits {} [first, second] ∧
      ∃ text, storedText {} "docs" true [first, second] = .ok text ∧
        expression? text "vc_b" = some "x" := by
  intro first second
  have hcheck : Settings.check {} = .ok () := by decide
  have htable : Sql.checkName "docs" = .ok () := by decide
  have hfits : Fits {} [first, second] := ⟨by decide, by decide, by decide, by decide, by decide⟩
  have hfirst : [first].findSome? (fun d => findDefinition? second.name.toList
      d.path.literal.toList) = some ['x', ')', '"', '\''] := by
    decide +kernel
  obtain ⟨text, tail, rest, htext, hstart, hsearch⟩ :=
    findDefinition?_storedText [first] [] (Settings.isChecked hcheck) htable hfits true
  rw [hfirst] at hsearch
  exact ⟨hcheck, htable, hfits, text, htext, expression?_eq hstart hsearch⟩

end DocumentQuery.CreateText
