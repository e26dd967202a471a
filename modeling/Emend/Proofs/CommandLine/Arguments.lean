import Mathlib.Data.List.TakeWhile
import Emend.Proofs.CommandLine.Words

/-!
# The spellings of arguments

The arguments of patching may be given in any order, and each of them in several
spellings: a value may be a word of its own or be attached to its option, an option may
have a letter, and a switch may stand before another letter.  All of this comes to the
same values, in which the extensions have the order of the command line.
-/

namespace Emend.CommandLine

/-! ## Arguments -/

inductive Given where
  | root (path : Path)
  | config (path : Path)
  | extension (text : String)
  | dryRun

namespace Given

def root? : Given → Option Path
  | root path => some path
  | _ => none

def config? : Given → Option Path
  | config path => some path
  | _ => none

def extension? : Given → Option String
  | extension text => some text
  | _ => none

def isDryRun : Given → Bool
  | dryRun => true
  | _ => false

end Given

/-- Arguments give a root, a configuration file, extensions in their order, and the wish
for a dry run, none but the extensions more than once. -/
structure Arranges (givens : List Given) (root config : Option Path) (extensions : List String)
    (dryRun : Bool) : Prop where
  root_eq : givens.filterMap Given.root? = root.toList
  config_eq : givens.filterMap Given.config? = config.toList
  extensions_eq : givens.filterMap Given.extension? = extensions
  dryRun_eq : givens.countP Given.isDryRun = dryRun.toNat

/-! ## Spellings -/

def isOption (word : Bytes) : Prop := ∃ second rest, word = dash :: second :: rest

/-- Letters that stand before the path of a configuration file, with or without that of a
dry run. -/
def configLetters (dryRun : Bool) : Bytes := Utf8.encode (if dryRun then "-nc" else "-c")

def configGivens (dryRun : Bool) (path : Path) : List Given :=
  if dryRun then [.dryRun, .config path] else [.config path]

/-- Words that spell an argument, or two whose letters stand in one word. -/
inductive Spells : List Given → List Bytes → Prop
  | root {path : Path} (hvalue : ¬isOption path) (hne : path ≠ []) (hstays : ¬leadsOff path) :
    Spells [.root path] [path]
  | config {path : Path} (hvalue : ¬isOption path) (hne : path ≠ []) :
    Spells [.config path] [Utf8.encode "--config", path]
  | configAttached {path : Path} (hne : path ≠ []) :
    Spells [.config path] [Utf8.encode "--config=" ++ path]
  | letters (dryRun : Bool) {path : Path} (hvalue : ¬isOption path) (hne : path ≠ []) :
    Spells (configGivens dryRun path) [configLetters dryRun, path]
  | lettersJoined (dryRun : Bool) {path : Path} (hne : path ≠ [])
      (hsign : path.head? ≠ some equalsSign) :
    Spells (configGivens dryRun path) [configLetters dryRun ++ path]
  | lettersAttached (dryRun : Bool) {path : Path} (hne : path ≠ []) :
    Spells (configGivens dryRun path) [configLetters dryRun ++ equalsSign :: path]
  | extension {text : String} (hvalue : ¬isOption (Utf8.encode text)) :
    Spells [.extension text] [Utf8.encode "--ext", Utf8.encode text]
  | extensionAttached (text : String) :
    Spells [.extension text] [Utf8.encode "--ext=" ++ Utf8.encode text]
  | dryRun : Spells [.dryRun] [Utf8.encode "--dry-run"]
  | dryRunLetter : Spells [.dryRun] [Utf8.encode "-n"]

/-- A command line that spells arguments one after the other.  Two dashes alone may stand
at its end, or before a root at its end. -/
inductive SpellsAll : List Given → List Bytes → Prop
  | nil : SpellsAll [] []
  | cons {givens more : List Given} {words rest : List Bytes} (hfirst : Spells givens words)
      (hrest : SpellsAll more rest) :
    SpellsAll (givens ++ more) (words ++ rest)
  | dashes : SpellsAll [] [[dash, dash]]
  | rootAfterDashes {path : Path} (hne : path ≠ []) :
    SpellsAll [.root path] [[dash, dash], path]

variable {level last : Level} {values next final : Values} {path word : Bytes}
  {words rest : List Bytes} {slot : Slot} {value : Bytes} {name text : String}
  {given : Given} {givens more : List Given} {switch : Switch}

/-! ## Values -/

namespace Values

def add (values : Values) : Given → Values
  | .root path => { values with root := some path }
  | .config path => { values with config := some path }
  | .extension text => { values with extensions := values.extensions ++ [text] }
  | .dryRun => { values with dryRun := true }

/-- An argument that has not been given before, or may be given again. -/
def Admits (values : Values) : Given → Prop
  | .root _ => values.root = .none
  | .config _ => values.config = .none
  | .extension _ => True
  | .dryRun => values.dryRun = false

def AdmitsAll (values : Values) : List Given → Prop
  | [] => True
  | given :: givens => values.Admits given ∧ (values.add given).AdmitsAll givens

theorem admitsAll_append : values.AdmitsAll (givens ++ more) ↔
    values.AdmitsAll givens ∧ (givens.foldl add values).AdmitsAll more := by
  induction givens generalizing values with
  | nil => simp [AdmitsAll]
  | cons given givens ih => simp [AdmitsAll, ih, and_assoc]

structure Completes (values : Values) (givens : List Given) (final : Values) : Prop where
  root_eq : values.root.toList ++ givens.filterMap Given.root? = final.root.toList
  config_eq : values.config.toList ++ givens.filterMap Given.config? = final.config.toList
  extensions_eq : values.extensions ++ givens.filterMap Given.extension? = final.extensions
  dryRun_eq : values.dryRun.toNat + givens.countP Given.isDryRun = final.dryRun.toNat
  init_eq : values.init = final.init
  force_eq : values.force = final.force

theorem toList_append_cons {α : Type} {old new : Option α} {a : α} {rest : List α}
    (h : old.toList ++ a :: rest = new.toList) : old = .none ∧ rest = [] ∧ new = some a := by
  cases old <;> cases new <;> simp_all

theorem Completes.cons (hcompletes : Completes values (given :: givens) final) :
    values.Admits given ∧ Completes (values.add given) givens final := by
  obtain ⟨hroot, hconfig, hextensions, hdryRun, hinit, hforce⟩ := hcompletes
  cases given with
  | root path =>
    obtain ⟨hnone, hrest, hfinal⟩ := toList_append_cons hroot
    exact ⟨hnone, by simp [add, hrest, hfinal], hconfig, hextensions, hdryRun, hinit, hforce⟩
  | config path =>
    obtain ⟨hnone, hrest, hfinal⟩ := toList_append_cons hconfig
    exact ⟨hnone, hroot, by simp [add, hrest, hfinal], hextensions, hdryRun, hinit, hforce⟩
  | extension text =>
    refine ⟨trivial, hroot, hconfig, ?_, hdryRun, hinit, hforce⟩
    rw [← hextensions, add, List.append_assoc]
    rfl
  | dryRun =>
    have hcount : (Given.dryRun :: givens).countP Given.isDryRun =
        givens.countP Given.isDryRun + 1 := List.countP_cons_of_pos rfl
    -- a switch counts once at most
    have hbound := final.dryRun.toNat_le
    have hnot : values.dryRun = false := by
      cases h : values.dryRun with
      | false => rfl
      | true =>
        rw [h] at hdryRun
        simp at hdryRun
        omega
    refine ⟨hnot, hroot, hconfig, hextensions, ?_, hinit, hforce⟩
    rw [← hdryRun, hnot, hcount]
    simp [add, Nat.add_comm]

theorem Completes.admitsAll (hcompletes : Completes values givens final) :
    values.AdmitsAll givens ∧ givens.foldl add values = final := by
  induction givens generalizing values with
  | nil =>
    obtain ⟨hroot, hconfig, hextensions, hdryRun, hinit, hforce⟩ := hcompletes
    rw [List.filterMap_nil, List.append_nil] at hroot hconfig hextensions
    rw [List.countP_nil, Nat.add_zero] at hdryRun
    have hroot : values.root = final.root := by
      simpa using congrArg List.head? hroot
    have hconfig : values.config = final.config := by
      simpa using congrArg List.head? hconfig
    have hdryRun : values.dryRun = final.dryRun := by
      cases hold : values.dryRun <;> cases hnew : final.dryRun <;> simp_all
    exact ⟨trivial, by cases values; cases final; simp_all⟩
  | cons given givens ih =>
    obtain ⟨hadmits, hrest⟩ := hcompletes.cons
    obtain ⟨hall, hfinal⟩ := ih hrest
    exact ⟨⟨hadmits, hall⟩, hfinal⟩

end Values

/-! ## Words -/

/-- A word that patching takes for itself leads to the next level. -/
theorem readWords_step (hword : level.isAwaiting = true ∨ ¬leadsOff word)
    (hdashes : word ≠ [dash, dash]) (hnext : readWord .patch level word = .ok last)
    (rest : List Bytes) :
    readWords .patch level false (word :: rest) = readWords .patch last false rest := by
  rw [readWords_patch_cons hword hdashes, hnext]
  rfl

theorem not_leadsOff_of_dash (word : Bytes) : ¬leadsOff (dash :: word) := by
  have hconfig : (Utf8.encode "config").head? ≠ some dash := by decide
  have hhelp : (Utf8.encode "help").head? ≠ some dash := by decide
  rintro (hword | hword)
  · exact hconfig (hword ▸ rfl)
  · exact hhelp (hword ▸ rfl)

/-- A word that is no option is the value of the argument that waits for one. -/
theorem readWord_of_awaiting {command : Command} (hvalue : ¬isOption word) :
    readWord command ⟨values, some ⟨slot, none⟩⟩ word =
      .ok ⟨values, some ⟨slot, some word⟩⟩ := by
  unfold readWord
  split
  · next first second rest =>
    rw [if_neg]
    · rfl
    · intro hdash
      exact hvalue ⟨second, rest, by rw [hdash]⟩
  · rfl

/-! ## Options -/

theorem ne_equalsSign (hsign : equalsSign ∉ Utf8.encode name) :
    ∀ b ∈ Utf8.encode name, decide (b ≠ equalsSign) = true := by
  intro b hb
  exact decide_eq_true fun hsame => hsign (hsame ▸ hb)

theorem readNamed_slot {command : Command} (hnamed : command.named? name = some (.slot slot))
    (hsign : equalsSign ∉ Utf8.encode name) :
    readNamed command level (Utf8.encode name) = level.await slot none := by
  simp only [readNamed, List.takeWhile_eq_self_iff.mpr (ne_equalsSign hsign),
    List.dropWhile_eq_nil_iff.mpr (ne_equalsSign hsign), Utf8.decode_encode, Except.toOption,
    Option.bind_some, hnamed]

theorem readNamed_switch {command : Command}
    (hnamed : command.named? name = some (.switch switch))
    (hsign : equalsSign ∉ Utf8.encode name) :
    readNamed command level (Utf8.encode name) = level.turnOn command switch := by
  simp only [readNamed, List.takeWhile_eq_self_iff.mpr (ne_equalsSign hsign),
    List.dropWhile_eq_nil_iff.mpr (ne_equalsSign hsign), Utf8.decode_encode, Except.toOption,
    Option.bind_some, hnamed]

theorem readNamed_attached {command : Command}
    (hnamed : command.named? name = some (.slot slot)) (hsign : equalsSign ∉ Utf8.encode name) :
    readNamed command level (Utf8.encode name ++ equalsSign :: value) =
      level.attach slot value := by
  have htake : (Utf8.encode name ++ equalsSign :: value).takeWhile (· ≠ equalsSign) =
      Utf8.encode name := by
    rw [List.takeWhile_append_of_pos (ne_equalsSign hsign)]
    simp
  have hdrop : (Utf8.encode name ++ equalsSign :: value).dropWhile (· ≠ equalsSign) =
      equalsSign :: value := by
    rw [List.dropWhile_append_of_pos (ne_equalsSign hsign)]
    simp
  simp only [readNamed, htake, hdrop, Utf8.decode_encode, Except.toOption, Option.bind_some, hnamed]

/-- What follows the letter of an option with a value is the value. -/
theorem readLettered_config (level : Level) (value : Bytes) :
    readLettered .patch level (0x63 :: value) =
      if value = [] then level.await .config none
      else level.attach .config
        (if value.head? = some equalsSign then value.drop 1 else value) := rfl

theorem readWord_named (command : Command) (level : Level) (body : Bytes) :
    readWord command level (dash :: dash :: body) = readNamed command level body := rfl

theorem readWord_config (level : Level) (value : Bytes) :
    readWord .patch level (dash :: 0x63 :: value) =
      readLettered .patch level (0x63 :: value) := rfl

theorem readWord_dryRun (level : Level) (letters : Bytes) :
    readWord .patch level (dash :: 0x6E :: letters) = (do
      readLettered .patch (← level.turnOn .patch .dryRun) letters) := rfl

/-! ## Values that fit -/

theorem take_config (hnone : values.config = none) (hne : path ≠ []) :
    values.take .config (some path) = .ok (values.add (.config path)) := by
  simp [Values.take, Values.add, hnone, hne]

theorem take_root (hne : path ≠ []) :
    values.take .root (some path) = .ok (values.add (.root path)) := by
  simp [Values.take, Values.add, hne]

theorem take_extension (text : String) :
    values.take .extension (some (Utf8.encode text)) = .ok (values.add (.extension text)) := by
  simp [Values.take, Values.add, Utf8.decode_encode]

theorem Level.Stands.turnOn_dryRun (hstands : level.Stands values) (hoff : values.dryRun = false) :
    level.turnOn .patch .dryRun = .ok ⟨values.add .dryRun, none⟩ := by
  apply hstands.turnOn_eq
  simp [Values.turnOn, Values.add, hoff]

/-- The first word that is neither an option nor a value is the root. -/
theorem Level.Stands.readWord_root (hstands : level.Stands values) (hvalue : ¬isOption word)
    (hnone : values.root = none) :
    readWord .patch level word = .ok ⟨values, some ⟨.root, some word⟩⟩ := by
  have hother : readWord.readOther .patch level word = .ok ⟨values, some ⟨.root, some word⟩⟩ := by
    rw [readWord.readOther, ← hstands.readPlain_root hnone false]
    have hwaiting := hstands.not_awaiting
    obtain ⟨given, _ | ⟨slot, _ | value⟩⟩ := level
    · rfl
    · cases hwaiting
    · rfl
  rw [← hother]
  unfold readWord
  split
  · next first second rest =>
    rw [if_neg]
    intro hdash
    exact hvalue ⟨second, rest, by rw [hdash]⟩
  · rfl

/-! ## Reading what is spelled -/

/-- Words lead from one level to another, whatever stands behind them. -/
def Leads (level : Level) (words : List Bytes) (last : Level) : Prop :=
  ∀ rest, readWords .patch level false (words ++ rest) = readWords .patch last false rest

/-- A word that begins with a dash is read by itself. -/
theorem leads_option {body : Bytes} (hbody : body ≠ [dash])
    (hnext : readWord .patch level (dash :: body) = .ok last) : Leads level [dash :: body] last :=
  readWords_step (.inr (not_leadsOff_of_dash body)) (by simpa using hbody) hnext

/-- An option without its value takes the next word for it. -/
theorem leads_apart {body : Bytes} (hbody : body ≠ [dash])
    (hnext : readWord .patch level (dash :: body) = .ok ⟨values, some ⟨slot, none⟩⟩)
    (hvalue : ¬isOption value) :
    Leads level [dash :: body, value] ⟨values, some ⟨slot, some value⟩⟩ := by
  intro rest
  have hdashes : value ≠ [dash, dash] := by
    rintro rfl
    exact hvalue ⟨dash, [], rfl⟩
  change readWords .patch level false ([dash :: body] ++ ([value] ++ rest)) = _
  rw [leads_option hbody hnext]
  exact readWords_step (.inl rfl) hdashes (readWord_of_awaiting hvalue) rest

/-- Before the value of a configuration file, its letter leads to a level that takes it,
also behind the letter of a dry run. -/
theorem exists_letters {dryRun : Bool} (hstands : level.Stands values)
    (hadmits : values.AdmitsAll (configGivens dryRun path)) :
    ∃ middle front, middle.Stands front ∧ front.config = none ∧
      (configGivens dryRun path).foldl Values.add values = front.add (.config path) ∧
      ∀ value, ∃ body, configLetters dryRun ++ value = dash :: body ∧ body ≠ [dash] ∧
        readWord .patch level (dash :: body) = readLettered .patch middle (0x63 :: value) := by
  cases dryRun with
  | false =>
    refine ⟨level, values, hstands, hadmits.1, rfl, fun value => ?_⟩
    exact ⟨0x63 :: value, rfl, by simp [dash], readWord_config level value⟩
  | true =>
    refine ⟨_, values.add .dryRun, Level.stands_none, hadmits.2.1, rfl, fun value => ?_⟩
    refine ⟨0x6E :: 0x63 :: value, rfl, by simp, ?_⟩
    rw [readWord_dryRun, hstands.turnOn_dryRun hadmits.1]
    rfl

/-- A named option whose value is the next word. -/
theorem Level.Stands.leads_named (hstands : level.Stands values)
    (hnamed : Command.patch.named? name = some (.slot slot))
    (hsign : equalsSign ∉ Utf8.encode name) (hne : Utf8.encode name ≠ [])
    (hvalue : ¬isOption value) (htake : values.take slot (some value) = .ok next) :
    ∃ last, last.Stands next ∧ Leads level [dash :: dash :: Utf8.encode name, value] last := by
  refine ⟨_, Level.stands_some htake, leads_apart (by simpa using hne) ?_ hvalue⟩
  rw [readWord_named, readNamed_slot hnamed hsign]
  exact hstands.await_eq

/-- A named option with its value attached to it. -/
theorem Level.Stands.leads_attached (hstands : level.Stands values)
    (hnamed : Command.patch.named? name = some (.slot slot))
    (hsign : equalsSign ∉ Utf8.encode name) (htake : values.take slot (some value) = .ok next) :
    ∃ last, last.Stands next ∧
      Leads level [dash :: dash :: (Utf8.encode name ++ equalsSign :: value)] last := by
  refine ⟨_, Level.stands_none, leads_option (by simp) ?_⟩
  rw [readWord_named, readNamed_attached hnamed hsign]
  exact hstands.attach_eq htake

/-- Letters with the path of a configuration file behind them, perhaps after an equals
sign. -/
theorem Level.Stands.leads_letters {dryRun : Bool} (hstands : level.Stands values)
    (hadmits : values.AdmitsAll (configGivens dryRun path)) (hne : path ≠ [])
    (hvalue : value ≠ [])
    (hpath : (if value.head? = some equalsSign then value.drop 1 else value) = path) :
    ∃ last, last.Stands ((configGivens dryRun path).foldl Values.add values) ∧
      Leads level [configLetters dryRun ++ value] last := by
  obtain ⟨middle, front, hmiddle, hnone, hfold, hletters⟩ := exists_letters hstands hadmits
  obtain ⟨body, hword, hbody, hread⟩ := hletters value
  rw [hfold, hword]
  refine ⟨_, Level.stands_none, leads_option hbody ?_⟩
  rw [hread, readLettered_config, if_neg hvalue, hpath]
  exact hmiddle.attach_eq (take_config hnone hne)

/-- What is spelled is given. -/
theorem Spells.leads (hspells : Spells givens words) (hstands : level.Stands values)
    (hadmits : values.AdmitsAll givens) :
    ∃ last, last.Stands (givens.foldl Values.add values) ∧ Leads level words last := by
  have hconfig : equalsSign ∉ Utf8.encode "config" := by decide
  have hext : equalsSign ∉ Utf8.encode "ext" := by decide
  have hdry : equalsSign ∉ Utf8.encode "dry-run" := by decide
  cases hspells with
  | @root path hvalue hne hstays =>
    refine ⟨_, Level.stands_some (take_root hne), ?_⟩
    have hdashes : path ≠ [dash, dash] := by
      rintro rfl
      exact hvalue ⟨dash, [], rfl⟩
    exact readWords_step (.inr hstays) hdashes (hstands.readWord_root hvalue hadmits.1)
  | @config path hvalue hne =>
    have hword : Utf8.encode "--config" = dash :: dash :: Utf8.encode "config" := rfl
    rw [hword]
    exact hstands.leads_named rfl hconfig (by decide) hvalue (take_config hadmits.1 hne)
  | @configAttached path hne =>
    have hword : Utf8.encode "--config=" ++ path =
        dash :: dash :: (Utf8.encode "config" ++ equalsSign :: path) := rfl
    rw [hword]
    exact hstands.leads_attached rfl hconfig (take_config hadmits.1 hne)
  | @letters dryRun path hvalue hne =>
    obtain ⟨middle, front, hmiddle, hnone, hfold, hletters⟩ := exists_letters hstands hadmits
    obtain ⟨body, hword, hbody, hread⟩ := hletters []
    rw [List.append_nil] at hword
    rw [hfold, hword]
    refine ⟨_, Level.stands_some (take_config hnone hne), leads_apart hbody ?_ hvalue⟩
    rw [hread, readLettered_config, if_pos rfl]
    exact hmiddle.await_eq
  | @lettersJoined dryRun path hne hsign =>
    exact hstands.leads_letters hadmits hne hne (if_neg hsign)
  | @lettersAttached dryRun path hne =>
    exact hstands.leads_letters hadmits hne (List.cons_ne_nil _ _) (if_pos List.head?_cons)
  | @extension text hvalue =>
    have hword : Utf8.encode "--ext" = dash :: dash :: Utf8.encode "ext" := rfl
    rw [hword]
    exact hstands.leads_named rfl hext (by decide) hvalue (take_extension text)
  | extensionAttached text =>
    have hword : Utf8.encode "--ext=" ++ Utf8.encode text =
        dash :: dash :: (Utf8.encode "ext" ++ equalsSign :: Utf8.encode text) := rfl
    rw [hword]
    exact hstands.leads_attached rfl hext (take_extension text)
  | dryRun =>
    have hword : Utf8.encode "--dry-run" = dash :: dash :: Utf8.encode "dry-run" := rfl
    rw [hword]
    refine ⟨_, Level.stands_none, leads_option (by decide) ?_⟩
    rw [readWord_named, readNamed_switch rfl hdry]
    exact hstands.turnOn_dryRun hadmits.1
  | dryRunLetter =>
    have hword : Utf8.encode "-n" = [dash, 0x6E] := rfl
    rw [hword]
    refine ⟨_, Level.stands_none, leads_option (by decide) ?_⟩
    rw [readWord_dryRun, hstands.turnOn_dryRun hadmits.1]
    rfl

theorem Values.foldl_add_switches (values : Values) (givens : List Given) :
    (givens.foldl add values).init = values.init ∧
      (givens.foldl add values).force = values.force := by
  induction givens generalizing values with
  | nil => exact ⟨rfl, rfl⟩
  | cons given givens ih =>
    have hone : (values.add given).init = values.init ∧
        (values.add given).force = values.force := by
      cases given <;> exact ⟨rfl, rfl⟩
    rw [List.foldl_cons, (ih _).1, (ih _).2]
    exact hone

/-- A command line is read as the arguments that it spells. -/
theorem SpellsAll.reads (hspells : SpellsAll givens words) (hstands : level.Stands values)
    (hadmits : values.AdmitsAll givens) (hforce : values.force = false) :
    readWords .patch level false words = .ok ⟨.patch, givens.foldl Values.add values⟩ := by
  induction hspells generalizing level values with
  | nil => exact readWords_patch_nil hstands (by simp [hforce]) false
  | @cons givens more words rest hfirst hrest ih =>
    obtain ⟨hhere, hthere⟩ := Values.admitsAll_append.mp hadmits
    obtain ⟨last, hlast, hleads⟩ := hfirst.leads hstands hhere
    rw [hleads, List.foldl_append]
    exact ih hlast hthere ((Values.foldl_add_switches values givens).2.trans hforce)
  | dashes =>
    rw [readWords_patch_dashes]
    exact readWords_patch_nil hstands (by simp [hforce]) true
  | @rootAfterDashes path hne =>
    rw [readWords_patch_dashes, readWords_patch_plain hstands hadmits.1]
    exact readWords_patch_nil (Level.stands_some (take_root hne)) (by simp [Values.add, hforce])
      true

/-- Arguments in any order and any spelling come to their values. -/
theorem ofWords_of_spellsAll {root config : Option Path} {extensions : List String}
    {dryRun : Bool} (harranges : Arranges givens root config extensions dryRun)
    (hspells : SpellsAll givens words) :
    Invocation.ofWords words = .ok ⟨.patch, ⟨config, extensions, root, false, false, dryRun⟩⟩ := by
  have hcompletes :
      Values.none.Completes givens ⟨config, extensions, root, false, false, dryRun⟩ := by
    refine ⟨harranges.root_eq, harranges.config_eq, harranges.extensions_eq, ?_, rfl, rfl⟩
    exact (Nat.zero_add _).trans harranges.dryRun_eq
  obtain ⟨hadmits, hfinal⟩ := hcompletes.admitsAll
  rw [Invocation.ofWords, hspells.reads Level.stands_start hadmits rfl, hfinal]

end Emend.CommandLine
