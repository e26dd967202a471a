import Emend.Proofs.Patch.Beside
import Emend.Proofs.Patch.Repeat
import Emend.Proofs.Pattern.Rewriting

/-!
# Trying again after a write that was cut off

When the new text of a file has been cut off by a size limit, the old text is whole in
the backup, and the file holds the part that was written.  A second attempt takes this
part for the old text.  With the built-in rules it finds nothing to do in it, so that the
backup stays, but for one kind of cut: right behind a symbol with which a longer word
begins, since the part then ends in the symbol as a whole word.
-/

namespace Emend

open Pattern

namespace Files

variable {files after : Files} {table : RuleTable} {path : Path} {old part : String}
  {kept : Bytes} {n : Nat} {cause : OsError}

/-! ## What is left of a write -/

/-- The new text of a file has been cut off: the file holds the part that was written, and
the backup the old text. -/
structure CutOff (path : Path) (old : String) (kept : Bytes) (after : Files) : Prop where
  apart : after.Apart path
  read : after.read path = .ok kept
  backup : after.read (backupPath path) = .ok (Utf8.encode old)

/-- A file whose slot is not that of its backup is not its own backup. -/
theorem apart_of_slots (hne : files.slot? (backupPath path) ≠ files.slot? path) :
    files.Apart path := by
  intro place hplace hspare
  apply hne
  rw [(fileAt_eq_some_iff.mp hplace).1, (fileAt_eq_some_iff.mp hspare).1]

/-- If a file could not be overwritten, its new text has been cut off. -/
theorem cutOff_of_patch (hapart : files.Apart path)
    (hread : files.read path = .ok (Utf8.encode old))
    (hpatch : files.patch path table false = (.error (.overwriteFailed path cause), after)) :
    CutOff path old (files.kept (Utf8.encode (table.apply old))) after := by
  have hpatches := files.patch_patches path table false
  rw [hpatch] at hpatches
  cases hpatches with
  | @overwriteCut other place spare hchanges _ hspare hplace =>
    obtain rfl : other = old := by
      apply Utf8.encode_injective
      rw [← Except.ok.injEq, ← hchanges.read, hread]
    -- Writing moves neither slot.
    have hshape : files.SameShape ((files.store spare (Utf8.encode other)).store place
        (files.kept (Utf8.encode (table.apply other)))) := sameShape_fixed hplace hspare
    have hleft : ((files.store spare (Utf8.encode other)).store place
        (files.kept (Utf8.encode (table.apply other)))).Apart path := by
      apply apart_of_slots
      rw [← hshape.slot_eq, ← hshape.slot_eq, hplace]
      exact hapart.ne_slot hchanges hplace
    exact ⟨hleft, read_overwritten hspare hplace, hapart.read_backup hchanges hspare hplace⟩

namespace CutOff

variable (hcut : CutOff path old kept after)
include hcut

/-- If the rules change nothing in what was written, patching the file again leaves
everything as it is. -/
theorem patch_of_same (hsame : ∀ part, Utf8.encode part = kept → table.apply part = part) :
    (after.patch path table false).2 = after := by
  have hnone {part : String} (hchanges : after.Changes path table part) : False := by
    refine hchanges.ne (hsame part ?_)
    rw [← Except.ok.injEq, ← hchanges.read, hcut.read]
  have hpatches := after.patch_patches path table false
  generalize (after.patch path table false).1 = outcome at hpatches
  generalize (after.patch path table false).2 = last at hpatches ⊢
  cases hpatches with
  | unreadable | notText | unchanged | foreseen | backupRefused => rfl
  | backupCut hchanges | overwriteCut hchanges | fixed hchanges => exact (hnone hchanges).elim

/-- If the rules change the part that was written, patching the file again puts this part
into the backup. -/
theorem patch_of_changes (hlimit : after.sizeLimit = none) (hpart : Utf8.encode part = kept)
    (hne : table.apply part ≠ part) :
    (after.patch path table false).1 = .ok .fixed ∧
      (after.patch path table false).2.read (backupPath path) = .ok kept := by
  have hchanges : after.Changes path table part :=
    ⟨⟨by rw [hcut.read, hpart], Utf8.decode_encode part⟩, hne⟩
  obtain ⟨place, hplace, -⟩ := read_eq_ok_iff.mp hcut.read
  obtain ⟨spare, hspare, -⟩ := read_eq_ok_iff.mp hcut.backup
  rw [hchanges.patch_eq, overwrite_of_unlimited hlimit hspare hplace, ← hpart]
  exact ⟨rfl, hcut.apart.read_backup hchanges hspare hplace⟩

end CutOff

/-- A size limit that the old text keeps and the new one does not lets the backup be
written, but not the file. -/
theorem overwrite_of_cut {new : String} {place spare : Location}
    (hlimit : files.sizeLimit = some n) (hspare : files.slot? (backupPath path) = some spare)
    (hplace : files.slot? path = some place) (hold : (Utf8.encode old).length ≤ n)
    (hnew : n < (Utf8.encode new).length) :
    (files.overwrite path old new).1 = .error (.overwriteFailed path .fileTooLarge) := by
  have hlast : (files.store spare (Utf8.encode old)).slot? path = some place := by
    rw [← (sameShape_store (isOpen_of_slot hspare)).slot_eq, hplace]
  have hsaved : files.kept (Utf8.encode old) = Utf8.encode old := by
    rw [kept, hlimit]
    exact List.take_of_length_le hold
  have hcut : (files.store spare (Utf8.encode old)).kept (Utf8.encode new) ≠ Utf8.encode new := by
    intro hwhole
    have hlength := congrArg List.length hwhole
    rw [kept, store, hlimit, List.length_take] at hlength
    omega
  unfold overwrite
  simp only [write_of_slot hspare, fill_of_kept hsaved, write_of_slot hlast, fill_of_cut hcut]

/-! ## A second attempt -/

def withLimit (files : Files) (limit : Option Nat) : Files := { files with sizeLimit := limit }

/-- Patches a file under a size limit. -/
def attempt (files : Files) (table : RuleTable) (path : Path) (n : Nat) :
    Except Error Patched × Files :=
  (files.withLimit (some n)).patch path table false

/-- Patches a file again after an attempt under a size limit, without one. -/
def retry (files : Files) (table : RuleTable) (path : Path) (n : Nat) :
    Except Error Patched × Files :=
  ((files.attempt table path n).2.withLimit none).patch path table false

/-- What an attempt leaves that could not overwrite the file. -/
theorem cutOff_of_attempt (hapart : files.Apart path)
    (hread : files.read path = .ok (Utf8.encode old))
    (hfailed : (files.attempt table path n).1 = .error (.overwriteFailed path cause)) :
    CutOff path old ((Utf8.encode (table.apply old)).take n)
      ((files.attempt table path n).2.withLimit none) := by
  have hlimited : (files.withLimit (some n)).Apart path := hapart
  have hcut := cutOff_of_patch hlimited hread (Prod.ext hfailed rfl)
  exact ⟨hcut.apart, hcut.read, hcut.backup⟩

end Files

namespace RuleTable

open Files

variable {files : Files} {path : Path} {old part : String} {n : Nat} {cause : OsError}

/-! ## Parts of what the built-in rules leave -/

/-- The first bytes of a text end in the symbol, with which a longer word begins there. -/
def CutsWord (text : String) (n : Nat) : Prop :=
  ∃ front back, text.toList = front ++ (symbol ++ back) ∧ endsInWord front = false ∧
    startsInWord back = true ∧
    (Utf8.encode text).take n = Utf8.encode (String.ofList (front ++ symbol))

/-- The rules change a text exactly if the symbol is a whole word of it. -/
theorem apply_builtIn_ne_iff {input : String} :
    builtIn.apply input ≠ input ↔ ∃ pre post, input.toList = pre ++ (symbol ++ post) ∧
      endsInWord pre = false ∧ startsInWord post = false := by
  constructor
  · intro hne
    by_contra hnone
    refine hne (apply_of_not_matches fun i j hmatches => hnone ?_)
    obtain ⟨pre, post, htext, -, -, hbefore, hafter⟩ :=
      (matches_wholeWord_iff wordlike_symbol).mp hmatches
    exact ⟨pre, post, htext, hbefore, hafter⟩
  · rintro ⟨pre, post, htext, hbefore, hafter⟩ hsame
    apply not_matches_symbol input
    rw [hsame]
    exact (matches_wholeWord_iff wordlike_symbol).mpr
      ⟨pre, post, htext, rfl, rfl, hbefore, hafter⟩

/-- What the rules have left stays the same when it is cut off, except within a word that
begins with the symbol. -/
theorem apply_part_eq_iff (hpart : Utf8.encode part = (Utf8.encode (builtIn.apply old)).take n) :
    builtIn.apply part = part ↔ ¬CutsWord (builtIn.apply old) n := by
  rw [← not_iff_not, not_not, ← Ne, apply_builtIn_ne_iff]
  constructor
  · rintro ⟨pre, post, htext, hbefore, hafter⟩
    obtain ⟨more, hmore⟩ : part.toList <+: (builtIn.apply old).toList :=
      Utf8.toList_prefix_of_encode (hpart ▸ List.take_prefix ..)
    have hwhole : (builtIn.apply old).toList = pre ++ (symbol ++ (post ++ more)) := by
      rw [← hmore, htext, List.append_assoc, List.append_assoc]
    -- In the whole text the symbol is no word of its own, so it goes on where the part ends.
    have hnext : startsInWord (post ++ more) = true := by
      by_contra hends
      have hword : startsInWord (post ++ more) = false := by simpa using hends
      exact apply_builtIn_ne_iff.mpr ⟨pre, _, hwhole, hbefore, hword⟩ (apply_builtIn_again old)
    cases post with
    | nil =>
      refine ⟨pre, more, hwhole, hbefore, hnext, ?_⟩
      rw [← hpart, ← String.ofList_toList (s := part), htext, List.append_nil]
    | cons c post => exact absurd (hafter.symm.trans hnext) Bool.false_ne_true
  · rintro ⟨front, back, -, hbefore, -, hcut⟩
    obtain rfl := Utf8.encode_injective (hpart.trans hcut)
    refine ⟨front, [], ?_, hbefore, rfl⟩
    rw [String.toList_ofList, List.append_nil]

/-- A part that ends so is another text than the old one. -/
theorem ne_of_cutsWord (hcuts : CutsWord (builtIn.apply old) n) :
    Utf8.encode old ≠ (Utf8.encode (builtIn.apply old)).take n := by
  intro hold
  refine (apply_part_eq_iff hold).not.mpr (not_not.mpr hcuts) (apply_builtIn_of_begins ?_)
  exact Utf8.toList_prefix_of_encode (hold ▸ List.take_prefix ..)

/-! ## A second attempt with the built-in rules -/

/-- A part that ends so is taken for the old text. -/
theorem retry_of_cutsWord
    (hcut : CutOff path old ((Utf8.encode (builtIn.apply old)).take n)
      ((files.attempt builtIn path n).2.withLimit none))
    (hcuts : CutsWord (builtIn.apply old) n) :
    (files.retry builtIn path n).1 = .ok .fixed ∧
      (files.retry builtIn path n).2.read (backupPath path) =
        .ok ((Utf8.encode (builtIn.apply old)).take n) := by
  obtain ⟨front, back, -, -, -, hpart⟩ := id hcuts
  exact hcut.patch_of_changes rfl hpart.symm
    ((apply_part_eq_iff hpart.symm).not.mpr (not_not.mpr hcuts))

/-- After an attempt that could not overwrite the file, a second one keeps the old text in
the backup, except where the first one has cut off the new text within a word that begins
with the symbol.  There the second one fixes the file, and leaves in the backup the part of
the new text that had been written. -/
theorem builtIn_retry {table : RuleTable} (htable : compile Config.builtIn.rules = .ok table)
    (hpath : files.linkKind path = .ok .file)
    (hbackup : files.linkKind (backupPath path) ≠ .ok .link)
    (hread : files.read path = .ok (Utf8.encode old))
    (hfailed : (files.attempt table path n).1 = .error (.overwriteFailed path cause)) :
    ((files.retry table path n).2.read (backupPath path) = .ok (Utf8.encode old) ↔
      ¬CutsWord (table.apply old) n) ∧
    (CutsWord (table.apply old) n →
      (files.retry table path n).1 = .ok .fixed ∧
        (files.retry table path n).2.read (backupPath path) =
          .ok ((Utf8.encode (table.apply old)).take n)) := by
  obtain rfl : builtIn = table := Except.ok.inj (compile_builtIn.symm.trans htable)
  have hapart := apart_of_linkKind (by rw [hpath]; decide) hbackup
  have hcut := cutOff_of_attempt hapart hread hfailed
  have hfixes (hcuts : CutsWord (builtIn.apply old) n) := retry_of_cutsWord hcut hcuts
  refine ⟨⟨fun hkept hcuts => ?_, fun hnone => ?_⟩, hfixes⟩
  · rw [(hfixes hcuts).2, Except.ok.injEq] at hkept
    exact ne_of_cutsWord hcuts hkept.symm
  · have hsame := hcut.patch_of_same fun part hpart => (apply_part_eq_iff hpart).mpr hnone
    rw [retry, hsame]
    exact hcut.backup

/-! ## A statement and a word behind it -/

def statementAnd (word : String) : String := "import flixel.animation.FlxFrameation;" ++ word

def newStatementAnd (word : String) : String := "import flixel.graphics.frames.FlxFrame;" ++ word

theorem toList_newStatementAnd (word : String) :
    (newStatementAnd word).toList = newStatement ++ word.toList :=
  String.toList_append

theorem isStatement_import : IsStatement "import flixel.animation.FlxFrameation;".toList := by
  refine ⟨[' '], [], List.cons_ne_nil _ _, fun c hc => ?_, by simp, by decide⟩
  rw [List.mem_singleton.mp hc]
  decide

/-- Only the statement is replaced, if neither another one nor the symbol is in the word. -/
theorem apply_statementAnd {word : String} {c : Char} {cs : List Char}
    (hword : word.toList = c :: cs) (hstatement : Clear "import".toList (c :: cs))
    (hread : afterSymbol? false (c :: cs) = none) (hsymbol : Clear symbol cs) :
    builtIn.apply (statementAnd word) = newStatementAnd word := by
  have hbegins : afterStatement? (statementAnd word).toList = some (c :: cs) :=
    afterStatement?_eq_some.mpr ⟨_, isStatement_import, hword ▸ String.toList_append⟩
  have hclear : Clear symbol newStatement := by decide
  apply String.toList_injective
  rw [toList_newStatementAnd, hword]
  calc
    (builtIn.apply (statementAnd word)).toList =
        replaceSymbols false (newStatement ++ replaceStatements (c :: cs ++ [])) := by
      rw [apply_builtIn, apply_symbolRule, apply_importRule, replaceStatements_of_some hbegins,
        List.append_nil]
    _ = replaceSymbols false (newStatement ++ (c :: (cs ++ []))) := by
      rw [replaceStatements_append hstatement, replaceStatements, List.cons_append]
    _ = newStatement ++ replaceSymbols false (c :: (cs ++ [])) := replaceSymbols_append hclear []
    _ = newStatement ++ (c :: replaceSymbols (endsInWord [c]) (cs ++ [])) := by
      rw [List.append_nil, replaceSymbols_of_none hread]
      rfl
    _ = newStatement ++ (c :: cs) := by
      rw [replaceSymbols_append hsymbol, replaceSymbols, List.append_nil]

def loneFile (content : Bytes) : Files := ⟨⟨[([Path.ofString "A.hx"], .file content)]⟩, [], none⟩

theorem linkKind_loneFile (content : Bytes) :
    (loneFile content).linkKind (Path.ofString "A.hx") = .ok .file := by cbv

theorem linkKind_backup_loneFile (content : Bytes) :
    (loneFile content).linkKind (backupPath (Path.ofString "A.hx")) = .error .notFound := by cbv

theorem read_loneFile (content : Bytes) :
    (loneFile content).read (Path.ofString "A.hx") = .ok content := by cbv

theorem slot_loneFile (content : Bytes) :
    (loneFile content).slot? (Path.ofString "A.hx") = some [Path.ofString "A.hx"] := by cbv

theorem slot_backup_loneFile (content : Bytes) :
    (loneFile content).slot? (backupPath (Path.ofString "A.hx")) =
      some [Path.ofString "A.hx.backup"] := by cbv

def statementFile (word : String) : Files := loneFile (Utf8.encode (statementAnd word))

/-- An attempt under a size limit that leaves out the end of the new text. -/
theorem attempt_statementFile {word : String}
    (happly : builtIn.apply (statementAnd word) = newStatementAnd word)
    (hold : (Utf8.encode (statementAnd word)).length ≤ n)
    (hnew : n < (Utf8.encode (newStatementAnd word)).length) :
    ((statementFile word).attempt builtIn (Path.ofString "A.hx") n).1 =
      .error (.overwriteFailed (Path.ofString "A.hx") .fileTooLarge) := by
  have hchanges : ((statementFile word).withLimit (some n)).Changes (Path.ofString "A.hx") builtIn
      (statementAnd word) := by
    refine ⟨⟨read_loneFile _, Utf8.decode_encode _⟩, fun hsame => ?_⟩
    rw [← happly, hsame] at hnew
    omega
  rw [attempt, hchanges.patch_eq, happly]
  exact overwrite_of_cut rfl (slot_backup_loneFile _) (slot_loneFile _) hold hnew

/-- A letter is cut off, and the backup stays. -/
theorem builtIn_retry_letter :
    compile Config.builtIn.rules = .ok builtIn ∧
      (statementFile "a").linkKind (Path.ofString "A.hx") = .ok .file ∧
      (statementFile "a").linkKind (backupPath (Path.ofString "A.hx")) ≠ .ok .link ∧
      (statementFile "a").read (Path.ofString "A.hx") = .ok (Utf8.encode (statementAnd "a")) ∧
      ((statementFile "a").attempt builtIn (Path.ofString "A.hx") 39).1 =
        .error (.overwriteFailed (Path.ofString "A.hx") .fileTooLarge) ∧
      ((statementFile "a").retry builtIn (Path.ofString "A.hx") 39).2.read
        (backupPath (Path.ofString "A.hx")) = .ok (Utf8.encode (statementAnd "a")) := by
  have happly : builtIn.apply (statementAnd "a") = newStatementAnd "a" :=
    apply_statementAnd rfl (by decide) (by decide) (by decide)
  have hbackup : (statementFile "a").linkKind (backupPath (Path.ofString "A.hx")) ≠ .ok .link := by
    rw [statementFile, linkKind_backup_loneFile]
    decide
  have hfailed := attempt_statementFile (n := 39) happly (by decide +kernel) (by decide +kernel)
  refine ⟨compile_builtIn, linkKind_loneFile _, hbackup, read_loneFile _, hfailed, ?_⟩
  refine (builtIn_retry compile_builtIn (linkKind_loneFile _) hbackup (read_loneFile _)
    hfailed).1.mpr ?_
  rw [happly]
  rintro ⟨front, back, htext, -⟩
  have hout : ¬symbol <:+: (newStatementAnd "a").toList := by decide +kernel
  exact hout ⟨front, back, by rw [htext, List.append_assoc]⟩

/-- A word that begins with the symbol loses its last letter, and the second attempt puts
the part of the new text in the place of the old one. -/
theorem retry_replaces_backup :
    compile Config.builtIn.rules = .ok builtIn ∧
      (statementFile "FlxFrameations").linkKind (Path.ofString "A.hx") = .ok .file ∧
      (statementFile "FlxFrameations").linkKind (backupPath (Path.ofString "A.hx")) ≠ .ok .link ∧
      (statementFile "FlxFrameations").read (Path.ofString "A.hx") =
        .ok (Utf8.encode (statementAnd "FlxFrameations")) ∧
      ((statementFile "FlxFrameations").attempt builtIn (Path.ofString "A.hx") 52).1 =
        .error (.overwriteFailed (Path.ofString "A.hx") .fileTooLarge) ∧
      ((statementFile "FlxFrameations").retry builtIn (Path.ofString "A.hx") 52).2.read
        (backupPath (Path.ofString "A.hx")) ≠
          .ok (Utf8.encode (statementAnd "FlxFrameations")) := by
  have happly : builtIn.apply (statementAnd "FlxFrameations") = newStatementAnd "FlxFrameations" :=
    apply_statementAnd rfl (by decide) (by decide) (by decide)
  have hbackup : (statementFile "FlxFrameations").linkKind (backupPath (Path.ofString "A.hx")) ≠
      .ok .link := by
    rw [statementFile, linkKind_backup_loneFile]
    decide
  have hfailed := attempt_statementFile (n := 52) happly (by decide +kernel) (by decide +kernel)
  have hapart := apart_of_linkKind (by rw [statementFile, linkKind_loneFile]; decide) hbackup
  have hcut := cutOff_of_attempt hapart (read_loneFile _) hfailed
  have hcuts : CutsWord (builtIn.apply (statementAnd "FlxFrameations")) 52 := by
    rw [happly]
    exact ⟨newStatement, ['s'], by decide +kernel, by decide, by decide, by decide +kernel⟩
  refine ⟨compile_builtIn, linkKind_loneFile _, hbackup, read_loneFile _, hfailed, ?_⟩
  rw [(retry_of_cutsWord hcut hcuts).2, Ne, Except.ok.injEq]
  exact (ne_of_cutsWord hcuts).symm

end RuleTable

end Emend
