import Emend.CommandLine.Reading
import Emend.Proofs.Except
import Emend.Proofs.Text.Encoding

/-!
# Reading words

A value waits until the next word comes, so that what counts of a level is what it
settles for.  A word that leads to another command hands the rest over, and every other
word leads from one level to the next, so that words which ask for patching can be read
up to their end and on from there.
-/

namespace Emend.CommandLine

variable {command child : Command} {level last : Level} {given values next : Values}
  {word : Bytes} {words rest : List Bytes} {slot : Slot} {pending : Option Bytes} {value : Bytes}
  {text : String} {plain : Bool} {invocation : Invocation}

/-! ## Levels -/

/-- No value is missing at a level, and what it has been given comes to some values. -/
structure Level.Stands (level : Level) (values : Values) : Prop where
  settle_eq : level.settle = .ok values
  not_awaiting : level.isAwaiting = false

theorem Values.root_of_take (htake : given.take slot pending = .ok values) :
    values.root.isSome = (given.root.isSome || slot = .root) := by
  cases pending with
  | none => cases slot <;> cases htake
  | some value =>
    cases slot with
    | config =>
      simp only [Values.take] at htake
      split_ifs at htake
      cases htake
      simp
    | extension =>
      simp only [Values.take] at htake
      split at htake
      · cases htake
        simp
      · cases htake
    | root =>
      simp only [Values.take] at htake
      split_ifs at htake
      cases htake
      simp

namespace Level

theorem settle_some :
    settle ⟨values, some ⟨slot, pending⟩⟩ = (values.take slot pending).mapError .fault := rfl

theorem stands_none : Stands ⟨values, none⟩ values := ⟨rfl, rfl⟩

theorem stands_start : start.Stands .none := stands_none

theorem stands_some (htake : values.take slot (some value) = .ok next) :
    Stands ⟨values, some ⟨slot, some value⟩⟩ next := by
  refine ⟨?_, rfl⟩
  rw [settle_some, htake]
  rfl

/-- A level that can be settled waits for no value. -/
theorem stands_of_settle (hsettle : level.settle = .ok values) : level.Stands values := by
  refine ⟨hsettle, ?_⟩
  obtain ⟨given, _ | ⟨slot, _ | value⟩⟩ := level
  · rfl
  · cases slot <;> cases hsettle
  · rfl

/-- A level knows whether a root has been given, also from the value that waits. -/
theorem Stands.hasRoot_eq (hstands : level.Stands values) :
    level.hasRoot = values.root.isSome := by
  have hsettle := hstands.settle_eq
  obtain ⟨given, _ | ⟨slot, pending⟩⟩ := level
  · cases hsettle
    simp [hasRoot]
  · rw [settle_some] at hsettle
    cases htake : given.take slot pending with
    | error fault =>
      rw [htake] at hsettle
      cases hsettle
    | ok taken =>
      rw [htake] at hsettle
      cases hsettle
      simp [hasRoot, Values.root_of_take htake]

theorem Stands.await_eq (hstands : level.Stands values) :
    level.await slot pending = .ok ⟨values, some ⟨slot, pending⟩⟩ := by
  rw [Level.await, hstands.settle_eq]
  rfl

theorem Stands.attach_eq (hstands : level.Stands values)
    (htake : values.take slot (some value) = .ok next) :
    level.attach slot value = .ok ⟨next, none⟩ := by
  rw [Level.attach, hstands.settle_eq]
  simp only [bind, Except.bind, htake]
  rfl

theorem Stands.turnOn_eq {switch : Switch} (hstands : level.Stands values)
    (hturn : values.turnOn command switch = .ok next) :
    level.turnOn command switch = .ok ⟨next, none⟩ := by
  rw [Level.turnOn, hstands.settle_eq]
  simp only [bind, Except.bind, hturn]
  rfl

end Level

/-! ## One word -/

/-- A word that leads on from patching, to a command or to its help. -/
def leadsOff (word : Bytes) : Prop := word = Utf8.encode "config" ∨ word = Utf8.encode "help"

theorem decode_ne (hne : word ≠ Utf8.encode text) : (Utf8.decode word).toOption ≠ some text := by
  intro hdecode
  cases hword : Utf8.decode word with
  | error fault =>
    rw [hword] at hdecode
    cases hdecode
  | ok found =>
    rw [hword] at hdecode
    cases hdecode
    exact hne (Utf8.encode_of_decode hword).symm

/-- The value of an argument, or a word that does not lead off, stays with patching. -/
theorem stays_of_word (hword : level.isAwaiting = true ∨ ¬leadsOff word) :
    (if level.isAwaiting then none else (Utf8.decode word).toOption).bind
        Command.patch.child? = none ∧
      (if level.isAwaiting then none else (Utf8.decode word).toOption) ≠ some "help" := by
  have hname : (if level.isAwaiting then none else (Utf8.decode word).toOption) ≠ some "config" ∧
      (if level.isAwaiting then none else (Utf8.decode word).toOption) ≠ some "help" := by
    rcases hword with hawaiting | hstays
    · simp [hawaiting]
    · rw [leadsOff, not_or] at hstays
      split_ifs
      · simp
      · exact ⟨decode_ne hstays.1, decode_ne hstays.2⟩
  refine ⟨?_, hname.2⟩
  rw [Option.bind_eq_none_iff]
  intro name hsome
  have hne : "config" ≠ name := fun hsame => hname.1 (hsame ▸ hsome)
  simp [Command.child?, Command.children, hne]

/-- A word hands the rest over to the command that it names.  Otherwise the same command
goes on, or ends with its help. -/
theorem readWords_word (command : Command) (level : Level) (plain : Bool) (word : Bytes)
    (rest : List Bytes) :
    readWords command level plain (word :: rest) =
      let name? := if plain || level.isAwaiting then none else (Utf8.decode word).toOption
      match name?.bind command.child? with
      | some child => do
        level.finish command (some (← readWords child .start false rest))
      | none =>
        if command.leadsOn && name? = some "help" then .error (readHelp command rest)
        else if plain then do
          readWords command (← readPlain command level true word) true rest
        else if word = [dash, dash] then readWords command level true rest
        else (do readWords command (← readWord command level word) false rest) := rfl

/-- A word that stays with patching is read by itself. -/
theorem readWords_patch_cons (hword : level.isAwaiting = true ∨ ¬leadsOff word)
    (hdashes : word ≠ [dash, dash]) :
    readWords .patch level false (word :: rest) = (do
      let next ← readWord .patch level word
      readWords .patch next false rest) := by
  obtain ⟨hchild, hhelp⟩ := stays_of_word hword
  rw [readWords_word]
  simp only [Bool.false_or, hchild, hhelp, hdashes]
  rfl

/-- Behind two dashes alone every word is plain. -/
theorem readWords_patch_dashes (rest : List Bytes) :
    readWords .patch level false ([dash, dash] :: rest) = readWords .patch level true rest := by
  have hword : level.isAwaiting = true ∨ ¬leadsOff [dash, dash] := by
    right
    unfold leadsOff
    decide
  obtain ⟨hchild, hhelp⟩ := stays_of_word hword
  rw [readWords_word]
  simp only [Bool.false_or, hchild, hhelp]
  rfl

/-- The first plain word is the root. -/
theorem Level.Stands.readPlain_root (hstands : level.Stands values) (hnone : values.root = none)
    (plain : Bool) :
    readPlain .patch level plain word = .ok ⟨values, some ⟨.root, some word⟩⟩ := by
  have hroot : level.hasRoot = false := by
    rw [hstands.hasRoot_eq, hnone]
    rfl
  rw [readPlain, hroot]
  exact hstands.await_eq

theorem readWords_patch_plain (hstands : level.Stands values) (hnone : values.root = none)
    (rest : List Bytes) :
    readWords .patch level true (word :: rest) =
      readWords .patch ⟨values, some ⟨.root, some word⟩⟩ true rest := by
  rw [readWords_word, hstands.readPlain_root hnone]
  rfl

/-- Where its words end, a command that has a task is asked for it. -/
theorem readWords_nil {task : Task} (htask : command.task? = some task)
    (hstands : level.Stands values) (hforce : values.force = true → values.init = true)
    (plain : Bool) : readWords command level plain [] = .ok ⟨task, values⟩ := by
  have hend : readWords command level plain [] = level.finish command none := rfl
  rw [hend, Level.finish, hstands.settle_eq]
  simp only [bind, Except.bind, pure, Except.pure, htask]
  split_ifs with hwrong
  · simp_all
  · rfl

theorem readWords_patch_nil (hstands : level.Stands values)
    (hforce : values.force = true → values.init = true) (plain : Bool) :
    readWords .patch level plain [] = .ok ⟨.patch, values⟩ :=
  readWords_nil rfl hstands hforce plain

/-- A word that names another command hands the rest over to it, and what has been given
before fills in what that command has been given. -/
theorem readWords_child (hstands : level.Stands values)
    (hforce : values.force = true → values.init = true)
    (hchild : command.child? text = some child)
    (hinner : readWords child .start false rest = .ok invocation) :
    readWords command level false (Utf8.encode text :: rest) =
      .ok { invocation with values := invocation.values.under values } := by
  have hname : (Utf8.decode (Utf8.encode text)).toOption.bind command.child? = some child := by
    rw [Utf8.decode_encode]
    exact hchild
  rw [readWords_word]
  simp only [Bool.false_or, hstands.not_awaiting, Bool.false_eq_true, if_false, hname, hinner]
  simp only [bind, Except.bind, Level.finish, hstands.settle_eq, pure, Except.pure]
  split_ifs with hwrong
  · simp_all
  · rfl

/-! ## Words that ask for patching -/

theorem Command.child_ne_patch (hchild : command.child? text = some child) : child ≠ .patch := by
  cases command with
  | patch =>
    simp [child?, children] at hchild
    simp [← hchild.2]
  | config =>
    simp only [child?, children] at hchild
    grind
  | showConfig => simp [child?, children] at hchild
  | validateConfig => simp [child?, children] at hchild

/-- The innermost command says what is to be done. -/
theorem task_of_finish {inner : Option Invocation}
    (hfinish : level.finish command inner = .ok invocation) :
    some invocation.task = (inner.map (·.task)).or command.task? := by
  obtain ⟨values, -, hfinish⟩ := exists_of_bind_ok hfinish
  simp only [refuse, bind, Except.bind, pure, Except.pure] at hfinish
  cases inner with
  | some inner =>
    simp only at hfinish
    split_ifs at hfinish
    cases hfinish
    rfl
  | none =>
    cases htask : command.task? with
    | some task =>
      simp only [htask] at hfinish
      split_ifs at hfinish
      cases hfinish
      rfl
    | none =>
      simp only [htask] at hfinish
      split_ifs at hfinish

/-- A word hands the rest over to another command, or the same command goes on with it. -/
theorem readWords_cons_ok (hread : readWords command level plain (word :: words) = .ok invocation) :
    (∃ name child inner, command.child? name = some child ∧
        readWords child .start false words = .ok inner ∧
        level.finish command (some inner) = .ok invocation) ∨
      ∃ next further, readWords command next further words = .ok invocation := by
  rw [readWords_word] at hread
  generalize (if plain || level.isAwaiting then none else (Utf8.decode word).toOption) =
    name? at hread
  cases hchild : name?.bind command.child? with
  | some child =>
    obtain ⟨name, -, hname⟩ := Option.bind_eq_some_iff.mp hchild
    simp only [hchild] at hread
    obtain ⟨inner, hinner, hfinish⟩ := exists_of_bind_ok hread
    exact .inl ⟨name, child, inner, hname, hinner, hfinish⟩
  | none =>
    right
    simp only [hchild] at hread
    split_ifs at hread
    · obtain ⟨next, -, hrest⟩ := exists_of_bind_ok hread
      exact ⟨next, true, hrest⟩
    · exact ⟨level, true, hread⟩
    · obtain ⟨next, -, hrest⟩ := exists_of_bind_ok hread
      exact ⟨next, false, hrest⟩

/-- No command but patching itself leads to patching. -/
theorem task_ne_patch (hcommand : command ≠ .patch)
    (hread : readWords command level plain words = .ok invocation) :
    invocation.task ≠ .patch := by
  induction words generalizing command level plain invocation with
  | nil =>
    have htask := task_of_finish hread
    cases command with
    | patch => exact absurd rfl hcommand
    | config => cases htask
    | showConfig | validateConfig =>
      rw [Option.some_inj.mp htask]
      decide
  | cons word words ih =>
    rcases readWords_cons_ok hread with ⟨name, child, inner, hchild, hinner, hfinish⟩ |
      ⟨next, further, hrest⟩
    · rw [Option.some_inj.mp (task_of_finish hfinish)]
      exact ih (Command.child_ne_patch hchild) hinner
    · exact ih hcommand hrest

/-- A word that leads off leads away from patching. -/
theorem not_leadsOff_of_patch
    (hread : readWords .patch level false (word :: words) = .ok ⟨.patch, values⟩)
    (hawaiting : level.isAwaiting = false) : ¬leadsOff word := by
  rintro (rfl | rfl)
  · rw [readWords_word] at hread
    simp only [hawaiting, Bool.or_false, Bool.false_eq_true, if_false, Utf8.decode_encode] at hread
    obtain ⟨inner, hinner, hfinish⟩ := exists_of_bind_ok hread
    have htask := Option.some_inj.mp (task_of_finish hfinish)
    exact task_ne_patch (by decide) hinner htask.symm
  · rw [readWords_word] at hread
    simp only [hawaiting, Bool.or_false, Bool.false_eq_true, if_false, Utf8.decode_encode] at hread
    cases hread

theorem stands_of_patch_nil (hread : readWords .patch level false [] = .ok ⟨.patch, values⟩) :
    level.Stands values ∧ (values.force = true → values.init = true) := by
  obtain ⟨given, hsettle, hread⟩ := exists_of_bind_ok hread
  simp only [Command.task?, bind, Except.bind, pure, Except.pure] at hread
  split_ifs at hread with hforce
  · cases hread
  · cases hread
    exact ⟨Level.stands_of_settle hsettle, by simpa using hforce⟩

/-- Words that ask for patching, without two dashes alone, are read up to their end and on
from there. -/
theorem exists_last (hread : readWords .patch level false words = .ok ⟨.patch, values⟩)
    (hdashes : [dash, dash] ∉ words) :
    ∃ last, last.Stands values ∧ (values.force = true → values.init = true) ∧
      ∀ rest, readWords .patch level false (words ++ rest) = readWords .patch last false rest := by
  induction words generalizing level with
  | nil =>
    obtain ⟨hstands, hforce⟩ := stands_of_patch_nil hread
    exact ⟨level, hstands, hforce, fun rest => rfl⟩
  | cons word words ih =>
    -- Had the word led off, it would not be patching that is asked for.
    have hword : level.isAwaiting = true ∨ ¬leadsOff word := by
      cases hawaiting : level.isAwaiting with
      | true => exact .inl rfl
      | false => exact .inr (not_leadsOff_of_patch hread hawaiting)
    rw [List.mem_cons, not_or] at hdashes
    have hstep (rest : List Bytes) : readWords .patch level false (word :: rest) = (do
        let next ← readWord .patch level word
        readWords .patch next false rest) :=
      readWords_patch_cons hword (Ne.symm hdashes.1)
    rw [hstep] at hread
    obtain ⟨next, hnext, hread⟩ := exists_of_bind_ok hread
    obtain ⟨last, hstands, hforce, hrest⟩ := ih hread hdashes.2
    refine ⟨last, hstands, hforce, fun rest => ?_⟩
    rw [List.cons_append, hstep, hnext]
    exact hrest rest

end Emend.CommandLine
