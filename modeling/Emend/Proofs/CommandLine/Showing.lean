import Emend.Proofs.CommandLine.Patching
import Emend.Proofs.Config.Faults

/-!
# Showing a configuration

Extensions may be given before, between and after the two words that ask for the
configuration.  Each of the three places belongs to another command, and of what they
have been given only the innermost counts.  All the extensions are shown just when they
have been given in one place.
-/

namespace Emend.CommandLine

variable {command : Command} {level : Level} {values : Values} {words between after : List Bytes}
  {text : String} {body : Bytes} {texts outer middle inner extensions : List String}
  {files : Files} {givens : List Given} {root config : Option Path} {dryRun : Bool}
  {loaded : LoadedConfig}

inductive SpellsExtensions : List String → List Bytes → Prop
  | nil : SpellsExtensions [] []
  | apart {text : String} {texts : List String} {words : List Bytes}
      (hvalue : ¬isOption (Utf8.encode text)) (hrest : SpellsExtensions texts words) :
    SpellsExtensions (text :: texts) (Utf8.encode "--ext" :: Utf8.encode text :: words)
  | attached (text : String) {texts : List String} {words : List Bytes}
      (hrest : SpellsExtensions texts words) :
    SpellsExtensions (text :: texts) ((Utf8.encode "--ext=" ++ Utf8.encode text) :: words)

def Values.addExtensions (values : Values) (extensions : List String) : Values :=
  { values with extensions := values.extensions ++ extensions }

/-! ## Reading extensions -/

theorem Command.named?_ext (command : Command) :
    command.named? "ext" = some (.slot .extension) := by
  cases command <;> rfl

/-- A word that begins with a dash names no command. -/
theorem Command.child?_of_dash (command : Command) (htext : Utf8.encode text = dash :: body) :
    command.child? text = none ∧ text ≠ "help" := by
  have hne {name : String} (hname : (Utf8.encode name).head? ≠ some dash) : name ≠ text := by
    rintro rfl
    exact hname (htext ▸ rfl)
  have hconfig : "config" ≠ text := hne (by decide)
  have hshow : "show" ≠ text := hne (by decide)
  have hvalidate : "validate" ≠ text := hne (by decide)
  have hhelp : "help" ≠ text := hne (by decide)
  refine ⟨?_, hhelp.symm⟩
  cases command <;> simp [child?, children, hconfig, hshow, hvalidate]

/-- Every command reads an option, and the value that it waits for, by itself. -/
theorem readWords_cons {word : Bytes} {next : Level}
    (hword : level.isAwaiting = true ∨ ∃ body, word = dash :: body)
    (hdashes : word ≠ [dash, dash]) (hnext : readWord command level word = .ok next)
    (rest : List Bytes) :
    readWords command level false (word :: rest) = readWords command next false rest := by
  have hname : (if level.isAwaiting then none else (Utf8.decode word).toOption).bind
        command.child? = none ∧
      (if level.isAwaiting then none else (Utf8.decode word).toOption) ≠ some "help" := by
    rcases hword with hawaiting | ⟨body, rfl⟩
    · simp [hawaiting]
    · split_ifs
      · simp
      · cases hdecode : Utf8.decode (dash :: body) with
        | error fault => simp [Except.toOption]
        | ok text =>
          have htext := Utf8.encode_of_decode hdecode
          simpa [Except.toOption] using command.child?_of_dash htext
  rw [readWords_word]
  simp only [Bool.false_or, hname.1, hname.2, hdashes, hnext, decide_false, Bool.and_false]
  rfl

theorem Level.Stands.readWords_apart (hstands : level.Stands values) (command : Command)
    (hvalue : ¬isOption (Utf8.encode text)) :
    ∃ last, Level.Stands last (values.addExtensions [text]) ∧ ∀ rest,
      readWords command level false (Utf8.encode "--ext" :: Utf8.encode text :: rest) =
        readWords command last false rest := by
  have hdashes : Utf8.encode text ≠ [dash, dash] := by
    intro heq
    exact hvalue ⟨dash, [], heq⟩
  have hword : Utf8.encode "--ext" = dash :: dash :: Utf8.encode "ext" := rfl
  have hoption : readWord command level (Utf8.encode "--ext") =
      .ok ⟨values, some ⟨.extension, none⟩⟩ := by
    rw [hword, readWord_named, readNamed_slot command.named?_ext (by decide)]
    exact hstands.await_eq
  refine ⟨_, Level.stands_some (take_extension text), fun rest => ?_⟩
  rw [readWords_cons (.inr ⟨_, hword⟩) (by decide) hoption,
    readWords_cons (.inl rfl) hdashes (readWord_of_awaiting hvalue)]

theorem Level.Stands.readWords_attached (hstands : level.Stands values) (command : Command)
    (text : String) :
    ∃ last, Level.Stands last (values.addExtensions [text]) ∧ ∀ rest,
      readWords command level false ((Utf8.encode "--ext=" ++ Utf8.encode text) :: rest) =
        readWords command last false rest := by
  have hword : Utf8.encode "--ext=" ++ Utf8.encode text =
      dash :: dash :: (Utf8.encode "ext" ++ equalsSign :: Utf8.encode text) := rfl
  have hoption : readWord command level (Utf8.encode "--ext=" ++ Utf8.encode text) =
      .ok ⟨values.addExtensions [text], none⟩ := by
    rw [hword, readWord_named, readNamed_attached command.named?_ext (by decide)]
    exact hstands.attach_eq (take_extension text)
  refine ⟨_, Level.stands_none, fun rest => ?_⟩
  rw [readWords_cons (.inr ⟨_, hword⟩) (by simp [hword]) hoption]

/-- What one command is given is all the extensions spelled for it, in their order. -/
theorem SpellsExtensions.reads (hspells : SpellsExtensions texts words)
    (hstands : level.Stands values) (command : Command) :
    ∃ last, Level.Stands last (values.addExtensions texts) ∧ ∀ rest,
      readWords command level false (words ++ rest) = readWords command last false rest := by
  induction hspells generalizing level values with
  | nil => exact ⟨level, by simpa [Values.addExtensions] using hstands, fun rest => rfl⟩
  | @apart text texts words hvalue hrest ih =>
    obtain ⟨next, hnext, hreads⟩ := hstands.readWords_apart command hvalue
    obtain ⟨last, hlast, hreadsRest⟩ := ih hnext
    refine ⟨last, by simpa [Values.addExtensions] using hlast, fun rest => ?_⟩
    rw [List.cons_append, List.cons_append, hreads, hreadsRest]
  | @attached text texts words hrest ih =>
    obtain ⟨next, hnext, hreads⟩ := hstands.readWords_attached command text
    obtain ⟨last, hlast, hreadsRest⟩ := ih hnext
    refine ⟨last, by simpa [Values.addExtensions] using hlast, fun rest => ?_⟩
    rw [List.cons_append, hreads, hreadsRest]

/-! ## What counts -/

/-- The extensions that count, of those given to a command and to one within it. -/
def prevailing (outer inner : List String) : List String :=
  if inner = [] then outer else inner

def innermost (outer middle inner : List String) : List String :=
  prevailing outer (prevailing middle inner)

/-- Extensions are given in one place at most. -/
def InOnePlace (outer middle inner : List String) : Prop :=
  outer = [] ∧ middle = [] ∨ outer = [] ∧ inner = [] ∨ middle = [] ∧ inner = []

/-- Either all the extensions count, or something in front of those that count is lost. -/
theorem innermost_cases (outer middle inner : List String) :
    InOnePlace outer middle inner ∧ innermost outer middle inner = outer ++ middle ++ inner ∨
      ¬InOnePlace outer middle inner ∧ ∃ front, front ≠ [] ∧ innermost outer middle inner ≠ [] ∧
        outer ++ middle ++ inner = front ++ innermost outer middle inner := by
  unfold InOnePlace innermost prevailing
  by_cases hinner : inner = []
  · by_cases hmiddle : middle = []
    · simp [hinner, hmiddle]
    · by_cases houter : outer = []
      · simp [hinner, hmiddle, houter]
      · exact .inr ⟨by simp [hmiddle, houter], outer, by simp [hinner, hmiddle, houter]⟩
  · by_cases hfront : outer ++ middle = []
    · simp_all
    · exact .inr ⟨by simp_all, outer ++ middle, by simp_all⟩

theorem Values.under_eq (inner outer : Values) :
    inner.under outer =
      { outer with
        config := inner.config.or outer.config
        extensions := prevailing outer.extensions inner.extensions } := by
  unfold under prevailing
  congr

/-- What is shown is configured by the inner extensions, or by the outer ones if there are none. -/
theorem readWords_config_show (hmiddle : SpellsExtensions middle between)
    (hinner : SpellsExtensions inner after) :
    readWords .config .start false (between ++ Utf8.encode "show" :: after) =
      .ok ⟨.showConfig, Values.none.addExtensions (prevailing middle inner)⟩ := by
  obtain ⟨last, hlast, hreads⟩ := hinner.reads Level.stands_start .showConfig
  have hshow : readWords .showConfig .start false after =
      .ok ⟨.showConfig, Values.none.addExtensions inner⟩ := by
    rw [← List.append_nil after, hreads]
    exact readWords_nil rfl hlast (by simp [Values.addExtensions, Values.none]) false
  obtain ⟨last, hlast, hreads⟩ := hmiddle.reads Level.stands_start .config
  rw [hreads, readWords_child hlast (by simp [Values.addExtensions, Values.none]) rfl hshow]
  simp [Values.under_eq, Values.addExtensions, Values.none]

/-- The words for the configuration are read with the extensions that count. -/
theorem ofWords_config_show (harranges : Arranges givens root config outer dryRun)
    (hspells : SpellsAll givens words) (hdashes : [dash, dash] ∉ words)
    (hmiddle : SpellsExtensions middle between) (hinner : SpellsExtensions inner after) :
    Invocation.ofWords
        (words ++ Utf8.encode "config" :: (between ++ Utf8.encode "show" :: after)) =
      .ok ⟨.showConfig, config, innermost outer middle inner, root, false, false, dryRun⟩ := by
  have hread : readWords .patch .start false words =
      .ok ⟨.patch, config, outer, root, false, false, dryRun⟩ :=
    ofWords_of_spellsAll harranges hspells
  obtain ⟨last, hlast, hforce, hrest⟩ := exists_last hread hdashes
  rw [Invocation.ofWords, hrest,
    readWords_child hlast hforce rfl (readWords_config_show hmiddle hinner)]
  simp [Values.under_eq, Values.addExtensions, Values.none, innermost]

/-! ## What is shown -/

def showing (files : Files) (loaded : LoadedConfig) (root : Option Path)
    (extensions : List String) : Ending :=
  .success files
    (textOfLines (configLines { loaded with config := overridden loaded.config root extensions }))

/-- Extensions that are lost are missing from what is shown. -/
theorem showing_ne {front kept : List String} (hfront : front ≠ []) (hkept : kept ≠ []) :
    showing files loaded root kept ≠ showing files loaded root (front ++ kept) := by
  intro heq
  have hoverridden {extensions : List String} (hne : extensions ≠ []) :
      overridden loaded.config root extensions =
        { loaded.config with
          root := root.getD loaded.config.root
          extensions := extensions } := by
    rw [overridden, if_neg hne]
  have htext := Utf8.encode_injective (congrArg Ending.output heq)
  rw [hoverridden hkept, hoverridden (by simp [hkept])] at htext
  simp only [textOfLines, configLines, List.cons_append, List.map_cons, String.join_cons,
    String.append_right_inj, String.append_left_inj,
    String.intercalate_append_of_ne_nil hfront hkept] at htext
  have hlength := congrArg String.length htext
  simp only [String.length_append] at hlength
  have hseparator : ", ".length = 2 := rfl
  omega

theorem validate_of_load {named : Option Path} {directory : Path}
    (hload : Config.load files named directory = .ok loaded) :
    loaded.config.validate = .ok () := by
  have htext {path : Path} {text : String} {config : Config}
      (htext : Config.ofText path text = .ok config) : config.validate = .ok () := by
    unfold Config.ofText at htext
    split at htext
    · cases htext
    · split at htext
      · cases htext
      · obtain ⟨⟨⟩, hvalid, hok⟩ := exists_of_bind_ok htext
        cases hok
        exact hvalid
  have hof {path : Path} {source : ConfigSource}
      (hread : (do return ⟨← Config.read files path, source⟩ : Except Error LoadedConfig) =
        .ok loaded) : loaded.config.validate = .ok () := by
    obtain ⟨config, hconfig, hok⟩ := exists_of_bind_ok hread
    cases hok
    unfold Config.read at hconfig
    split at hconfig
    · cases hconfig
    · split at hconfig
      · cases hconfig
      · exact htext hconfig
  cases named with
  | some path => exact hof hload
  | none =>
    simp only [Config.load] at hload
    split_ifs at hload
    · exact hof hload
    · cases hload
      rfl

/-- Extensions that are accepted with what is loaded are shown. -/
theorem showConfig_of_load (hload : loadHere files values.config = .ok loaded)
    (hvalid : ∀ e ∈ values.extensions, ¬OnlyDots e) :
    showConfig files values = showing files loaded values.root values.extensions := by
  obtain ⟨hsome, hdots, hrules⟩ := Config.validate_ok_iff.mp (validate_of_load hload)
  have haccepted : (overridden loaded.config values.root values.extensions).validate = .ok () := by
    refine Config.validate_ok_iff.mpr ⟨?_, ?_, hrules⟩
    · unfold overridden
      split_ifs with hnone
      · exact hsome
      · exact hnone
    · unfold overridden
      split_ifs
      · exact hdots
      · exact hvalid
  rw [showConfig, effectiveConfig_of_ok hload, haccepted]
  rfl

/-- Of the extensions given in three places, the innermost are shown. -/
theorem program_shows (harranges : Arranges givens root config outer dryRun)
    (hspells : SpellsAll givens words) (hdashes : [dash, dash] ∉ words)
    (hmiddle : SpellsExtensions middle between) (hinner : SpellsExtensions inner after)
    (hvalid : ∀ e ∈ outer ++ middle ++ inner, ¬OnlyDots e)
    (hload : loadHere files config = .ok loaded) :
    program files (words ++ Utf8.encode "config" :: (between ++ Utf8.encode "show" :: after)) =
      showing files loaded root (innermost outer middle inner) := by
  have hkept : innermost outer middle inner ⊆ outer ++ middle ++ inner := by
    unfold innermost prevailing
    split_ifs <;> simp
  rw [program, ofWords_config_show harranges hspells hdashes hmiddle hinner]
  exact showConfig_of_load hload fun e he => hvalid e (hkept he)

/-- The program shows the extensions that have been given in the innermost place, and thus
all of them just when they have been given in one place. -/
theorem program_config_show (harranges : Arranges givens root config outer dryRun)
    (hspells : SpellsAll givens words) (hdashes : [dash, dash] ∉ words)
    (hmiddle : SpellsExtensions middle between) (hinner : SpellsExtensions inner after)
    (hvalid : ∀ e ∈ outer ++ middle ++ inner, ¬OnlyDots e)
    (hload : loadHere files config = .ok loaded) :
    program files (words ++ Utf8.encode "config" :: (between ++ Utf8.encode "show" :: after)) =
        showing files loaded root (innermost outer middle inner) ∧
      (program files (words ++ Utf8.encode "config" :: (between ++ Utf8.encode "show" :: after)) =
          showing files loaded root (outer ++ middle ++ inner) ↔
        InOnePlace outer middle inner) := by
  have hshows := program_shows harranges hspells hdashes hmiddle hinner hvalid hload
  refine ⟨hshows, ?_⟩
  rw [hshows]
  rcases innermost_cases outer middle inner with
    ⟨hplace, hall⟩ | ⟨hplaces, front, hfront, hsome, hall⟩
  · exact iff_of_true (by rw [hall]) hplace
  · rw [hall]
    exact iff_of_false (showing_ne hfront hsome) hplaces

def nothing : Files := ⟨Tree.empty, [], none⟩

theorem load_nothing : loadHere nothing none = .ok ⟨.builtIn, .builtIn⟩ :=
  loadHere_of_no_file (by cbv)

theorem not_onlyDots_letters : ∀ e ∈ ["hx", "as"], ¬OnlyDots e := by
  simp [OnlyDots]

/-- Two extensions between the words for the configuration are both shown. -/
theorem program_config_show_between :
    Arranges [.root (Utf8.encode "src")] (some (Utf8.encode "src")) none [] false ∧
      SpellsAll [.root (Utf8.encode "src")] [Utf8.encode "src"] ∧
      [dash, dash] ∉ [Utf8.encode "src"] ∧
      SpellsExtensions ["hx", "as"]
        [Utf8.encode "--ext=hx", Utf8.encode "--ext", Utf8.encode "as"] ∧
      loadHere nothing none = .ok ⟨.builtIn, .builtIn⟩ ∧
      program nothing ([Utf8.encode "src"] ++ Utf8.encode "config" ::
          ([Utf8.encode "--ext=hx", Utf8.encode "--ext", Utf8.encode "as"] ++
            [Utf8.encode "show"])) =
        showing nothing ⟨.builtIn, .builtIn⟩ (some (Utf8.encode "src")) ["hx", "as"] := by
  have hvalue {word : Bytes} (hfirst : word.head? ≠ some dash) : ¬isOption word := by
    rintro ⟨second, rest, rfl⟩
    exact hfirst rfl
  have harranges : Arranges [.root (Utf8.encode "src")] (some (Utf8.encode "src")) none [] false :=
    ⟨rfl, rfl, rfl, rfl⟩
  have hspells : SpellsAll [.root (Utf8.encode "src")] [Utf8.encode "src"] :=
    .cons (.root (hvalue (by decide)) (by decide) (by unfold leadsOff; decide)) .nil
  have hdashes : [dash, dash] ∉ [Utf8.encode "src"] := by decide
  have hmiddle : SpellsExtensions ["hx", "as"]
      [Utf8.encode "--ext=hx", Utf8.encode "--ext", Utf8.encode "as"] :=
    .attached "hx" (.apart (hvalue (by decide)) .nil)
  have hplace : InOnePlace [] ["hx", "as"] [] := .inr (.inl ⟨rfl, rfl⟩)
  exact ⟨harranges, hspells, hdashes, hmiddle, load_nothing,
    (program_config_show harranges hspells hdashes hmiddle .nil not_onlyDots_letters
      load_nothing).2.mpr hplace⟩

/-- An extension before the words for the configuration is lost if there is another one
after them. -/
theorem not_shows_all : ¬∀ (files : Files) (loaded : LoadedConfig) (root : Option Path)
    (outer middle inner : List String) (givens : List Given) (words between after : List Bytes),
    Arranges givens root none outer false → SpellsAll givens words → [dash, dash] ∉ words →
      SpellsExtensions middle between → SpellsExtensions inner after →
      (∀ e ∈ outer ++ middle ++ inner, ¬OnlyDots e) → loadHere files none = .ok loaded →
      program files (words ++ Utf8.encode "config" :: (between ++ Utf8.encode "show" :: after)) =
        showing files loaded root (outer ++ middle ++ inner) := by
  intro hall
  have harranges : Arranges [.extension "hx"] none none ["hx"] false := ⟨rfl, rfl, rfl, rfl⟩
  have hspells : SpellsAll [.extension "hx"] [Utf8.encode "--ext=hx"] :=
    .cons (.extensionAttached "hx") .nil
  have hdashes : [dash, dash] ∉ [Utf8.encode "--ext=hx"] := by decide
  have hinner : SpellsExtensions ["as"] [Utf8.encode "--ext=as"] := .attached "as" .nil
  have hshows := program_shows harranges hspells hdashes .nil hinner not_onlyDots_letters
    load_nothing
  have hlost := hall _ _ _ _ _ _ _ _ _ _ harranges hspells hdashes .nil hinner
    not_onlyDots_letters load_nothing
  exact showing_ne (List.cons_ne_nil "hx" []) (List.cons_ne_nil "as" []) (hshows.symm.trans hlost)

end Emend.CommandLine
