import Emend.Proofs.CommandLine.Patching
import Emend.Proofs.Config.Initial
import Emend.Proofs.Run.Addition

/-!
# Writing the local configuration file

The file that a user starts from says what is built in.  Making it changes nothing that is
there, and no run notices it that does not look for its name, whether the run finds the
file and reads it or not.
-/

namespace Emend

open Emend.Path (descend slash)

def Files.localPlace (files : Files) : Location := files.here ++ [Config.fileName]

/-- Files and directories, with no local configuration file among them. -/
structure Files.Unconfigured (files : Files) : Prop where
  wellFormed : files.WellFormed
  linkFree : files.tree.LinkFree
  free : files.tree.entry? files.localPlace = none

namespace Config

theorem proper_fileName : Name.Proper fileName := by
  decide +kernel

theorem not_backup_fileName : ¬backupTail <:+ fileName := by
  decide +kernel

end Config

namespace CommandLine

open Files (Adds Unconfigured)

variable {files before after : Files} {location : Location} {values : Values}
  {invocation : Invocation} {words : List Bytes} {ending : Ending}

/-! ## The local file -/

theorem pathOfLocation_eq_descend (hproper : ∀ name ∈ location, name.Proper) :
    pathOfLocation location = descend [slash] location := by
  induction location using List.reverseRecOn with
  | nil => rfl
  | append_singleton names name ih =>
    obtain ⟨hnames, hname⟩ := List.forall_mem_append.mp hproper
    have hlast : name.Proper := hname name (List.mem_singleton_self name)
    rw [Path.descend_concat, Path.join_eq_append hlast, Path.fence]
    rcases eq_or_ne names [] with rfl | hne
    · simp [pathOfLocation, Path.descend_nil]
    · rw [if_neg (not_or.mpr ⟨Path.descend_ne_nil (by simp) hnames,
        Path.descend_no_slash hne hnames⟩), ← ih hnames]
      simp [pathOfLocation, hne]

/-- Where there are no links, the path of the local file leads nowhere else. -/
theorem slot_localFile (hwell : files.WellFormed) (hfree : files.tree.LinkFree)
    (hslot : files.slot? ((pathOfLocation files.here).join Config.fileName) = some location) :
    location = files.localPlace := by
  have hproper : ∀ name ∈ files.localPlace, name.Proper := by
    intro name hname
    rcases List.mem_append.mp hname with hhere | hlast
    · exact hwell.here name hhere
    · rw [List.mem_singleton.mp hlast]
      exact Config.proper_fileName
  have hpath : (pathOfLocation files.here).join Config.fileName =
      descend [slash] files.localPlace := by
    rw [Files.localPlace, Path.descend_concat, pathOfLocation_eq_descend hwell.here]
  have hsteps : Files.steps (descend [slash] files.localPlace) = files.localPlace := by
    rw [Files.steps_descend (by simp) (by simp [Files.localPlace]) hproper]
    rfl
  have horigin : Files.origin files.here (descend [slash] files.localPlace) = [] := by
    rw [Files.origin, Path.isAbsolute_descend (by simp) hproper]
    rfl
  rw [hpath] at hslot
  rw [Files.slot_of_proper hfree (by rwa [hsteps]) hslot, hsteps, horigin, List.nil_append]

/-- A name that is free in the working directory leads to where it would be made. -/
theorem locate_fileName (hfree : files.tree.entry? files.localPlace = none)
    (manner : Files.Manner) :
    files.locate manner Config.fileName = .ok (.free files.localPlace) := by
  have hpath : Files.Admits Config.fileName :=
    ⟨by decide +kernel, Config.proper_fileName.ne_nil, by decide +kernel⟩
  have hsteps : Files.steps Config.fileName = [Config.fileName] := by decide +kernel
  have horigin : Files.origin files.here Config.fileName = files.here := by
    rw [Files.origin, Path.isAbsolute_of_proper Config.proper_fileName]
    rfl
  have hname : Files.LooksUp manner Config.fileName [] :=
    ⟨by simp [Config.proper_fileName.ne_nil, Config.proper_fileName.ne_dot],
      Config.proper_fileName.ne_dots, by simp, by decide +kernel⟩
  rw [Files.locate_of_admits hpath, hsteps, horigin]
  exact (Files.Reaches.free hname hfree).walk_eq

/-- A relative path to the local configuration file leads to its place, if nothing stands there. -/
theorem slot_fileName (hfree : files.tree.entry? files.localPlace = none) :
    files.slot? Config.fileName = some files.localPlace := by
  rw [Files.slot?, locate_fileName hfree]
  rfl

/-- Without a local configuration file the built-in configuration is loaded. -/
theorem loadHere_unconfigured (hfiles : files.Unconfigured) :
    loadHere files none = .ok ⟨.builtIn, .builtIn⟩ := by
  have hfile : files.isFile ((pathOfLocation files.here).join Config.fileName) = false := by
    by_contra hfile
    obtain ⟨location, content, hslot, hentry⟩ :=
      Files.exists_of_isFile (Bool.not_eq_false _ ▸ hfile)
    rw [slot_localFile hfiles.wellFormed hfiles.linkFree hslot, hfiles.free] at hentry
    cases hentry
  simp [loadHere, Config.load, hfile]

/-- Whether a local file that says what is built in is found or not, the same is loaded. -/
theorem loadHere_builtIn {text : String} (hwell : files.WellFormed)
    (hfree : files.tree.LinkFree)
    (hentry : files.tree.entry? files.localPlace = some (.file (Utf8.encode text)))
    (htext : ∀ path, Config.ofText path text = .ok .builtIn) :
    ∃ source, loadHere files none = .ok ⟨.builtIn, source⟩ := by
  generalize hpath : (pathOfLocation files.here).join Config.fileName = path
  cases hfile : files.isFile path with
  | false => exact ⟨.builtIn, by simp [loadHere, Config.load, hpath, hfile]⟩
  | true =>
    obtain ⟨location, content, hslot, hfound⟩ := Files.exists_of_isFile hfile
    have hread := Files.read_of_slot hslot hfound
    rw [← hpath] at hslot
    rw [slot_localFile hwell hfree hslot, hentry] at hfound
    cases hfound
    have hconfig : Config.read files path = .ok .builtIn := by
      simp only [Config.read, hread, Utf8.decode_encode, htext]
    refine ⟨.file path, ?_⟩
    simp only [loadHere, Config.load, hpath, hfile, if_true, hconfig]
    rfl

/-! ## Writing it -/

/-- All that writing the local configuration file can do where it may not replace one. -/
inductive Initializes (files : Files) : Ending → Prop
  | refused (text : String) : Initializes files (.failure files text)
  | written {location : Location} (hslot : files.slot? Config.fileName = some location)
      (hfree : files.tree.entry? location = none) (text : String) :
    Initializes files (.success (files.store location (Utf8.encode Config.initialFile)) text)
  | cut {location : Location} (hfree : files.tree.entry? location = none) (content : Bytes)
      (text : String) :
    Initializes files (.failure (files.store location content) text)

theorem writeInitialConfig_of_isThere (hthere : files.isThere Config.fileName = true) :
    ∃ text, writeInitialConfig files false = .failure files text := by
  unfold writeInitialConfig
  rw [hthere]
  exact ⟨_, rfl⟩

/-- Where the local configuration file may not be replaced, these are all the endings there are. -/
theorem writeInitialConfig_initializes (files : Files) :
    Initializes files (writeInitialConfig files false) := by
  cases hthere : files.isThere Config.fileName with
  | true =>
    obtain ⟨text, hending⟩ := writeInitialConfig_of_isThere hthere
    rw [hending]
    exact .refused text
  | false =>
    have hvacant : files.Vacant Config.fileName := by
      apply Files.vacant_of_not_isFile
      intro hfile
      rw [Files.isThere_of_isFile hfile] at hthere
      cases hthere
    simp only [writeInitialConfig, hthere, Bool.false_and]
    rcases files.write_cases Config.fileName (Utf8.encode Config.initialFile) with
      ⟨-, e, hwrite⟩ | ⟨location, hslot, hwrite | ⟨-, hwrite⟩⟩
    · rw [hwrite]
      exact .refused _
    · rw [hwrite]
      exact .written hslot (hvacant location hslot) _
    · rw [hwrite]
      exact .cut (hvacant location hslot) _ _

/-- Whatever stood in the tree still stands there as it was. -/
theorem Initializes.keeps (hending : Initializes files ending) {entry : Entry}
    (hentry : files.tree.entry? location = some entry) :
    ending.files.tree.entry? location = some entry := by
  cases hending with
  | refused => exact hentry
  | written _ hfree | cut hfree => exact (Files.adds_store hfree _).keeps hentry

/-- Made under a free name, the file stands at its place. -/
theorem Initializes.success (hending : Initializes files ending)
    (hfree : files.tree.entry? files.localPlace = none) (hcode : ending.code = 0) :
    ending.files = files.store files.localPlace (Utf8.encode Config.initialFile) := by
  cases hending with
  | refused | cut => cases hcode
  | written hslot =>
    rw [slot_fileName hfree] at hslot
    rw [← Option.some.inj hslot]
    rfl

/-- Under a free name the file can be made, if it does not grow too large. -/
theorem writeInitialConfig_of_room (hfree : files.tree.entry? files.localPlace = none)
    (hroom : files.kept (Utf8.encode Config.initialFile) = Utf8.encode Config.initialFile) :
    (writeInitialConfig files false).code = 0 := by
  have hthere : files.isThere Config.fileName = false := by
    simp [Files.isThere, Files.kind, Files.entry, locate_fileName hfree, bind, Except.bind,
      Except.map]
  simp only [writeInitialConfig, hthere, Bool.false_and,
    Files.write_of_slot (slot_fileName hfree), Files.fill_of_kept hroom]
  rfl

/-! ## Runs beside it -/

structure Ending.OneMore (place : Location) (content : Bytes) (first second : Ending) : Prop where
  code_eq : second.code = first.code
  output_eq : second.output = first.output
  errors_eq : second.errors = first.errors
  files : Files.Adds place content first.files second.files

/-- What the program shows of two results differs no more than they do. -/
theorem Ending.OneMore.shown {place : Location} {content : Bytes} (config : Config)
    {first second : EStateM.Result Error RunState Summary}
    (hresults : Run.OneMore place content first second) :
    Ending.OneMore place content (shown config first) (shown config second) := by
  cases hresults with
  | ok summary hfiles => exact ⟨rfl, rfl, rfl, hfiles⟩
  | error e hfiles => exact ⟨rfl, rfl, rfl, hfiles⟩

/-- Patching with what is built in does not notice the initial file. -/
theorem patch_initial (hfiles : before.Unconfigured)
    (hadds : Adds before.localPlace (Utf8.encode Config.initialFile) before after)
    (hwell : after.WellFormed) (hnamed : values.config = none)
    (hwants : (Scanner.ofConfig (overridden .builtIn values.root values.extensions)).wants
      Config.fileName = false) :
    Ending.OneMore before.localPlace (Utf8.encode Config.initialFile) (patch before values)
      (patch after values) := by
  have hplace : after.localPlace = before.localPlace := by
    rw [Files.localPlace, Files.localPlace, hadds.here]
  have hfirst : loadHere before values.config = .ok ⟨.builtIn, .builtIn⟩ := by
    rw [hnamed]
    exact loadHere_unconfigured hfiles
  obtain ⟨source, hsecond⟩ : ∃ source, loadHere after values.config = .ok ⟨.builtIn, source⟩ := by
    rw [hnamed]
    have hentry := hadds.entry before.localPlace
    rw [if_pos rfl, ← hplace] at hentry
    exact loadHere_builtIn hwell (hadds.grows.shape.tree.linkFree hfiles.linkFree) hentry
      Config.ofText_initialFile
  cases hvalid : (overridden .builtIn values.root values.extensions).validate with
  | error e =>
    have hrefused {files : Files} {source : ConfigSource}
        (hload : loadHere files values.config = .ok ⟨.builtIn, source⟩) :
        effectiveConfig files values = .error e := by
      rw [effectiveConfig_of_ok hload, hvalid]
      rfl
    rw [patch_of_refused (hrefused hfirst), patch_of_refused (hrefused hsecond)]
    exact ⟨rfl, rfl, rfl, hadds⟩
  | ok =>
    have haccepted {files : Files} {source : ConfigSource}
        (hload : loadHere files values.config = .ok ⟨.builtIn, source⟩) :
        effectiveConfig files values =
          .ok ⟨overridden .builtIn values.root values.extensions, source⟩ := by
      rw [effectiveConfig_of_ok hload, hvalid]
      rfl
    rw [patch_of_accepted (haccepted hfirst), patch_of_accepted (haccepted hsecond)]
    exact .shown _ (Run.run_adds hfiles.wellFormed.tree hwell.tree hfiles.linkFree
      Config.proper_fileName Config.not_backup_fileName hadds hwants _)

/-! ## Main result -/

/-- What a command line comes to that asks for the local configuration file. -/
structure InitialEffect (files : Files) (ending : Ending) : Prop where
  keeps : ∀ location entry, files.tree.entry? location = some entry →
    ending.files.tree.entry? location = some entry
  refuses : ∀ location entry,
    files.locate ⟨true, false⟩ Config.fileName = .ok (.found location entry) →
      ending.code = 1 ∧ ending.files = files
  succeeds : files.Unconfigured →
    files.kept (Utf8.encode Config.initialFile) = Utf8.encode Config.initialFile →
      ending.code = 0
  adds : files.Unconfigured → ending.code = 0 →
    Adds files.localPlace (Utf8.encode Config.initialFile) files ending.files
  unnoticed : files.Unconfigured → ending.code = 0 → ∀ later values,
    Invocation.ofWords later = .ok ⟨.patch, values⟩ → values.init = false →
      values.config = none →
      (Scanner.ofConfig (overridden .builtIn values.root values.extensions)).wants
        Config.fileName = false →
      Ending.OneMore files.localPlace (Utf8.encode Config.initialFile) (program files later)
        (program ending.files later)

/-- Asking for the local configuration file is safe.  What is there is kept, and runs that
do not look for the name of the file do what they did without it. -/
theorem program_init (hread : Invocation.ofWords words = .ok invocation)
    (hinit : invocation.values.init = true) (hforce : invocation.values.force = false)
    (files : Files) : InitialEffect files (program files words) := by
  have hprogram : program files words = writeInitialConfig files false := by
    simp only [program, hread, carryOut, hinit, hforce, if_true]
  rw [hprogram]
  have hending := writeInitialConfig_initializes files
  refine ⟨fun location entry => hending.keeps, ?_,
    fun hfiles => writeInitialConfig_of_room hfiles.free, fun hfiles hcode => ?_,
    fun hfiles hcode later values hlater hpatches hnamed hwants => ?_⟩
  · intro location entry hlocate
    have hkind := Files.kind_eq_ok_iff.mpr ⟨location, entry, hlocate, rfl⟩
    obtain ⟨text, hrefused⟩ := writeInitialConfig_of_isThere (by rw [Files.isThere, hkind])
    rw [hrefused]
    exact ⟨rfl, rfl⟩
  · rw [hending.success hfiles.free hcode]
    exact Files.adds_store hfiles.free _
  · have hrun (files : Files) : program files later = patch files values := by
      simp only [program, hlater, carryOut, hpatches]
      rfl
    rw [hrun, hrun, hending.success hfiles.free hcode]
    exact patch_initial hfiles (Files.adds_store hfiles.free _)
      (hfiles.wellFormed.store (slot_fileName hfiles.free)) hnamed hwants

/-- The file is made beside a directory, and a run over the directory goes as before. -/
theorem program_init_letter :
    Invocation.ofWords [Utf8.encode "--init"] =
        .ok ⟨.patch, ⟨none, [], none, true, false, false⟩⟩ ∧
      Run.letterTree.Unconfigured ∧
      InitialEffect Run.letterTree (program Run.letterTree [Utf8.encode "--init"]) ∧
      (program Run.letterTree [Utf8.encode "--init"]).code = 0 ∧
      Ending.OneMore Run.letterTree.localPlace (Utf8.encode Config.initialFile)
        (program Run.letterTree [Utf8.encode "s"])
        (program (program Run.letterTree [Utf8.encode "--init"]).files [Utf8.encode "s"]) := by
  have hread : Invocation.ofWords [Utf8.encode "--init"] =
      .ok ⟨.patch, ⟨none, [], none, true, false, false⟩⟩ := by cbv
  have hlater : Invocation.ofWords [Utf8.encode "s"] =
      .ok ⟨.patch, ⟨none, [], some (Utf8.encode "s"), false, false, false⟩⟩ := by cbv
  have hwants : (Scanner.ofConfig (overridden .builtIn (some (Utf8.encode "s")) [])).wants
      Config.fileName = false := by cbv
  have hfiles : Run.letterTree.Unconfigured :=
    ⟨⟨Run.wellFormed_letterTree, by simp [Run.letterTree]⟩, Run.linkFree_letterTree,
      by decide +kernel⟩
  have heffect := program_init hread rfl rfl Run.letterTree
  have hcode := heffect.succeeds hfiles rfl
  exact ⟨hread, hfiles, heffect, hcode, heffect.unnoticed hfiles hcode _ _ hlater rfl rfl hwants⟩

end CommandLine

end Emend
