import Emend.Proofs.Config.Giving

/-!
# The initial configuration file

The file that a user starts from writes its patterns as literal strings and explains
itself in comments.  Read back, it is the built-in configuration.
-/

namespace Emend

open Toml

namespace Toml

variable {α : Type} {line : α → List Char → Prop} {a : α} {as : List α}
  {cs margin written : List Char} {text : String} {limit depth : Nat}

instance : DecidablePred IsText := fun _ => inferInstanceAs (Decidable (_ ∨ _))

/-! ## Strings as they stand -/

/-- Without marks and escapes a text is written as it is. -/
theorem writesText_plain (htext : cs.all fun c => IsText c ∧ c ≠ '"' ∧ c ≠ '\\') :
    WritesText cs cs := by
  induction cs with
  | nil => exact .nil
  | cons c cs ih =>
    rw [List.all_cons, Bool.and_eq_true, decide_eq_true_iff] at htext
    obtain ⟨⟨hc, hmark, hescape⟩, hmore⟩ := htext
    exact .cons (.plain hc hmark hescape) (ih hmore)

inductive WritesLiteral (text : String) : List Char → Prop
  | mk (hne : text.toList ≠ []) (htext : ∀ c ∈ text.toList, IsText c ∧ c ≠ '\'') :
    WritesLiteral text ('\'' :: (text.toList ++ ['\'']))

theorem WritesLiteral.readValue (hwritten : WritesLiteral text cs) (rest : List Char) :
    readValue limit depth (cs ++ rest) = some (.string text, rest) := by
  obtain ⟨hne, htext⟩ := hwritten
  have hread : readLiteral false (text.toList ++ '\'' :: rest) = some (text, rest) :=
    (readLiteralInner_text htext).trans (by simp)
  have hstring : readString? ('\'' :: (text.toList ++ '\'' :: rest)) = some (text, rest) := by
    rw [← hread]
    cases hlist : text.toList with
    | nil => exact absurd hlist hne
    | cons c more =>
      have hmark : c ≠ '\'' := (htext c (by simp [hlist])).2
      simp [readString?, readQuoted?, hmark]
  have hcs : '\'' :: (text.toList ++ ['\'']) ++ rest =
      '\'' :: (text.toList ++ '\'' :: rest) := by simp
  rw [hcs]
  cases depth <;> simp [Toml.readValue, hstring]

theorem readsEach_literal (limit depth : Nat) :
    ReadsEach limit WritesLiteral (readValue limit depth) fun v text => v = .string text where
  begins hwritten := by
    obtain ⟨hne, htext⟩ := hwritten
    exact ⟨_, _, rfl, by decide⟩
  reads hwritten _ := ⟨_, rfl, fun rest _ => hwritten.readValue rest⟩

/-! ## Documents line by line -/

theorem WritesDocument.nil : WritesDocument line [] [] :=
  .ended .nil Filler.nil (.blanks Blanks.nil)

/-- One more line of a document. -/
theorem WritesDocument.cons (hline : line a written) (hmore : WritesDocument line as cs) :
    WritesDocument line (a :: as) (written ++ '\n' :: cs) := by
  have hfront {bs : List α} {front : List Char} (hfront : WritesLines line bs front) :
      WritesLines line (a :: bs) (written ++ '\n' :: front) :=
    .cons Filler.nil hline (.blanks Blanks.nil) .lineFeed hfront
  cases hmore with
  | ended hlines hbefore hmargin => simpa using WritesDocument.ended (hfront hlines) hbefore hmargin
  | last hlines hbefore hlast hmargin =>
    simpa using WritesDocument.last (hfront hlines) hbefore hlast hmargin

/-- A line of a document that says nothing. -/
theorem WritesDocument.pass (hmargin : Margin margin) (hmore : WritesDocument line as cs) :
    WritesDocument line as (margin ++ '\n' :: cs) := by
  have hfill {before : List Char} (hbefore : Filler before) : Filler (margin ++ '\n' :: before) :=
    .line hmargin .lineFeed hbefore
  cases hmore with
  | ended hlines hbefore hend =>
    cases hlines with
    | nil => simpa using WritesDocument.ended .nil (hfill hbefore) hend
    | cons hfirst hline hmid hfeed hlines =>
      have hwhole := WritesLines.cons (hfill hfirst) hline hmid hfeed hlines
      simpa using WritesDocument.ended hwhole hbefore hend
  | last hlines hbefore hlast hend =>
    cases hlines with
    | nil => simpa using WritesDocument.last .nil (hfill hbefore) hlast hend
    | cons hfirst hline hmid hfeed hlines =>
      have hwhole := WritesLines.cons (hfill hfirst) hline hmid hfeed hlines
      simpa using WritesDocument.last hwhole hbefore hlast hend

end Toml

namespace Config

variable {config : Config} {keys : List ConfigKey} {pieces : List Piece} {text : String}

/-- A line that says what a piece says, where the text of a field may stand as it is. -/
inductive WritesLine (config : Config) : Piece → List Char → Prop
  | piece {piece : Piece} {cs : List Char} (hwritten : WritesPiece config piece cs) :
    WritesLine config piece cs
  | literal {key text : String} {cs : List Char}
      (hwritten : WritesPair WritesLiteral (key, text) cs) :
    WritesLine config (.field key text) cs

/-- A line in which texts may stand as they are reads back as what it says. -/
theorem readsEach_line (limit : Nat) (config : Config) :
    ReadsEach limit (WritesLine config) (readLine limit) (Says config) where
  begins hwritten := by
    cases hwritten with
    | piece hwritten => exact (readsEach_piece limit config).begins hwritten
    | literal hwritten =>
      obtain ⟨c, more, rfl, hopens, -⟩ := hwritten.beginsPair.exists_cons
      exact ⟨c, more, rfl, hopens⟩
  reads hwritten hlimit := by
    cases hwritten with
    | piece hwritten => exact (readsEach_piece limit config).reads hwritten hlimit
    | literal hwritten =>
      obtain ⟨v, hv, hread⟩ :=
        readLine_of_pair (readsEach_literal limit depthLimit) hwritten hlimit
      subst hv
      exact ⟨_, rfl, hread⟩

/-- Lines that lay out a configuration read back as it is at their keys. -/
theorem ofText_of_lines (hvalid : config.validate = .ok ()) (hlays : Lays config keys pieces)
    (hlines : WritesDocument (WritesLine config) pieces text.toList) (path : Path) :
    ofText path text = .ok (config.onlyAt keys) := by
  have heach := readsEach_line (text.toList.length + 1) config
  have hmark := hlines.head_ne_mark fun _ _ => heach.begins
  have hmarked : Marked text.toList text := by
    simpa using @Marked.plain text.toList
  obtain ⟨lines, htold, hread⟩ := heach.readDocument hlines (Nat.lt_succ_self _)
  obtain ⟨table, htable, hconfig⟩ := Option.bind_eq_some_iff.mp (hlays.ofLines htold)
  rw [ofText, ofText_of_marked hmarked hmark, hread, Option.bind_some, htable]
  simp only [hconfig, validate_onlyAt hvalid keys]
  rfl

/-! ## The initial file -/

/-- A pair with a blank on each side of its sign. -/
theorem writesPair_spaced {α : Type} {item : α → List Char → Prop} {a : α} {key : String}
    {written : List Char} (hkey : WritesKey key key.toList) (hitem : item a written) :
    WritesPair item (key, a) (key.toList ++ ' ' :: '=' :: ' ' :: written) := by
  have hblank : Blanks [' '] := by simp [Blanks]
  exact .mk hkey hblank hblank hitem

theorem writesLine_pattern {line text : String} {cs : List Char} (htext : text.toList = cs)
    (hline : line.toList = "pattern".toList ++ ' ' :: '=' :: ' ' :: '\'' :: (cs ++ ['\'']))
    (hne : cs ≠ []) (hall : cs.all fun c => IsText c ∧ c ≠ '\'') :
    WritesLine config (.field "pattern" text) line.toList := by
  subst htext
  have hkey : WritesKey "pattern" "pattern".toList := .of_all (by decide) (by decide)
  rw [hline]
  exact .literal (writesPair_spaced hkey
    (.mk hne fun c hc => of_decide_eq_true (List.all_eq_true.mp hall c hc)))

theorem writesLine_replacement {line text : String} {cs : List Char} (htext : text.toList = cs)
    (hline : line.toList = "replacement".toList ++ ' ' :: '=' :: ' ' :: '"' :: (cs ++ ['"']))
    (hall : cs.all fun c => IsText c ∧ c ≠ '"' ∧ c ≠ '\\') :
    WritesLine config (.field "replacement" text) line.toList := by
  subst htext
  have hkey : WritesKey "replacement" "replacement".toList := .of_all (by decide) (by decide)
  rw [hline]
  exact .piece (.field (writesPair_spaced hkey (.mk (writesText_plain hall))))

theorem writesLine_root : WritesLine builtIn (.setting .root) "root = \"source\"".toList := by
  have hstring : WritesString "source" ('"' :: ("source".toList ++ ['"'])) :=
    .mk (writesText_plain (by rw [String.toList_ofList]; decide +kernel))
  have hroot : WritesSetting builtIn .root _ := .root rfl hstring
  have hline : "root = \"source\"".toList =
      "root".toList ++ ' ' :: '=' :: ' ' :: '"' :: ("source".toList ++ ['"']) := by
    rw [String.toList_ofList, String.toList_ofList, String.toList_ofList]
    rfl
  rw [hline]
  exact .piece (.setting (writesPair_spaced (ConfigKey.writesKey .root) hroot))

theorem writesLine_extensions :
    WritesLine builtIn (.setting .extensions) "extensions = [\"hx\"]".toList := by
  have hstring : WritesString "hx" ('"' :: ("hx".toList ++ ['"'])) :=
    .mk (writesText_plain (by rw [String.toList_ofList]; decide +kernel))
  have hextensions : WritesSetting builtIn .extensions _ :=
    .extensions (.mk (.last .nil Filler.nil hstring Filler.nil))
  have hline : "extensions = [\"hx\"]".toList =
      "extensions".toList ++ ' ' :: '=' :: ' ' :: '[' ::
        ([] ++ ([] ++ ('"' :: ("hx".toList ++ ['"']) ++ [])) ++ [']']) := by
    rw [String.toList_ofList, String.toList_ofList, String.toList_ofList]
    rfl
  rw [hline]
  exact .piece (.setting (writesPair_spaced (ConfigKey.writesKey .extensions) hextensions))

theorem writesLine_opening : WritesLine config .opening "[[rules]]".toList := by
  have hkey : WritesKey "rules" "rules".toList := ConfigKey.writesKey .rules
  have hline : "[[rules]]".toList =
      '[' :: '[' :: ([] ++ ("rules".toList ++ ([] ++ [']', ']']))) := by
    rw [String.toList_ofList, String.toList_ofList]
    rfl
  rw [hline]
  exact .piece (.opening (.mk Blanks.nil hkey Blanks.nil))

def initialPieces : List Piece :=
  Piece.settings [.root, .extensions] ++ builtIn.rules.flatMap fun rule =>
    .opening :: Piece.fields [("pattern", rule.pattern), ("replacement", rule.replacement)]

/-- The initial file lays out all of the built-in configuration. -/
theorem lays_initialPieces : Lays builtIn ([.root, .extensions] ++ [.rules]) initialPieces := by
  have hsections (rules : List Rule) : Sections rules (rules.flatMap fun rule =>
      .opening :: Piece.fields [("pattern", rule.pattern), ("replacement", rule.replacement)]) := by
    induction rules with
    | nil => exact .nil
    | cons rule rules ih => exact .cons .patternFirst ih
  exact .sections (by decide) (List.cons_ne_nil _ _) (hsections builtIn.rules)

/-- The initial file says what its lines say, among comments and empty lines. -/
theorem writes_initialFile :
    WritesDocument (WritesLine builtIn) initialPieces initialFile.toList := by
  have hcomment {line : String} {text : List Char} (hline : line.toList = '#' :: text)
      (htext : text.all fun c => IsText c) : Margin line.toList := by
    rw [hline]
    exact .comment Blanks.nil fun c hc => of_decide_eq_true (List.all_eq_true.mp htext c hc)
  have hempty : Margin "".toList := by
    rw [String.toList_empty]
    exact .blanks Blanks.nil
  have hnewline : "\n".toList = ['\n'] := String.toList_ofList
  simp only [initialFile, String.toList_intercalate, List.map_cons, List.map_nil,
    List.intercalate_cons_cons, List.intercalate_singleton, hnewline, List.append_assoc,
    List.singleton_append]
  -- The characters of a literal are unified with a list, since their evaluation is slow.
  iterate 5 refine .pass (hcomment String.toList_ofList (by decide +kernel)) ?_
  refine .pass hempty ?_
  refine .cons writesLine_root (.cons writesLine_extensions (.pass hempty ?_))
  refine .cons writesLine_opening (.cons (writesLine_pattern String.toList_ofList
    (by rw [String.toList_ofList, String.toList_ofList]; rfl) (by decide) (by decide +kernel)) ?_)
  refine .cons (writesLine_replacement String.toList_ofList
    (by rw [String.toList_ofList, String.toList_ofList]; rfl) (by decide +kernel)) ?_
  refine .pass hempty ?_
  refine .cons writesLine_opening (.cons (writesLine_pattern String.toList_ofList
    (by rw [String.toList_ofList, String.toList_ofList]; rfl) (by decide) (by decide +kernel)) ?_)
  refine .cons (writesLine_replacement String.toList_ofList
    (by rw [String.toList_ofList, String.toList_ofList]; rfl) (by decide +kernel)) ?_
  rw [String.toList_empty]
  exact .nil

/-- Cut down to any keys, the built-in configuration stays the same. -/
theorem onlyAt_builtIn (keys : List ConfigKey) : builtIn.onlyAt keys = builtIn := by
  simp [onlyAt]

/-- The initial file reads back as the built-in configuration. -/
theorem ofText_initialFile (path : Path) : ofText path initialFile = .ok builtIn := by
  rw [ofText_of_lines rfl lays_initialPieces writes_initialFile path, onlyAt_builtIn]

end Config

end Emend
