import AnchorOutline.Log.Filter
import AnchorOutline.Proofs.Cli.Program
import AnchorOutline.Proofs.Files.Links
import AnchorOutline.Proofs.Sets.Extent

/-!
# What a command may change

Whatever fails on the way, and wherever a run is stopped, a command that only reads leaves all files as
they are. A session touches the config file and what is needed to write it, and only if a name was given
to a save; a first config file is made only where nothing was. This holds of any file system; where there
are links, a file is what a path leads to.

* `Cli.Frame` : what each command may make of the files, and when it prints nothing;
* `Cli.frame_commandProgram` : each command keeps to that;
* `Cli.run_frame` : a run does.
-/

namespace AnchorOutline.Cli

open ConsoleAction (MayRun MayRunSeeing)

variable {σ : Type} {engine : Regex.Engine} {config file : String} {config? : Option String}
  {input : List UInt8} {command : CliCommand} {s s' : σ} {out out' : Stdout}

/-- What a command may make of the files, and what it printed if it comes to its end. `Differs` says of
some files, and of the path to one of them, that nothing else is different, apart from directories on the
way of that path. -/
def Frame (Differs : List Path → Path → σ → σ → Prop) (config? : Option String) (command : CliCommand)
    (s : σ) (report? : Option Report) (s' : σ) (out : Stdout) : Prop :=
  match command with
  | .version | .session _ true => s' = s
  | .outline .. | .sets => s' = s ∧ ∀ report, report? = some report → exitCode report.result ≠ 0 →
    out.refused = true ∨ out.text = ""
  | .session _ false =>
    (s' = s ∨ ∃ config, config? = some config ∧
      let p := Path.ofString config
      Differs [p, ConfigFile.beside p] p s s') ∧
    ∀ report, report? = some report → report.names = [] → s' = s
  | .init =>
    (s' = s ∨ ∃ config, config? = some config ∧
      let p := Path.ofString config
      Differs [p] p s s' ∧ ∀ report, report? = some report →
        report.result = .error (.store (.alreadyExists config)) → s' = s)

variable {report : Report} {report? : Option Report}

theorem Frame.mono {Differs Differs' : List Path → Path → σ → σ → Prop}
    (h : Frame Differs config? command s report? s' out)
    (hdiffers : ∀ config, config? = some config → ∀ files ⊆
      [Path.ofString config, ConfigFile.beside (Path.ofString config)],
      Differs files (Path.ofString config) s s' → Differs' files (Path.ofString config) s s') :
    Frame Differs' config? command s report? s' out := by
  cases command with
  | version => exact h
  | outline file patterns set? json => exact h
  | sets => exact h
  | init =>
    refine h.imp_right fun ⟨config, hconfig, hfiles, hthere⟩ => ⟨config, hconfig, ?_, hthere⟩
    exact hdiffers config hconfig _ (by simp) hfiles
  | session file ephemeral =>
    cases ephemeral with
    | true => exact h
    | false =>
      refine ⟨h.1.imp_right fun ⟨config, hconfig, hfiles⟩ => ⟨config, hconfig, ?_⟩, h.2⟩
      exact hdiffers config hconfig _ (List.Subset.refl _) hfiles

variable {Filter : Type} {filters : LogFilters Filter} {i : Invocation} {line : CommandLine}
  {r : Option (Option (Filter × Report))}

/-- What a run may make of the files: nothing if it is not understood, or else what its command may. -/
def RunFrame (Differs : List Path → Path → σ → σ → Prop) (i : Invocation) (s : σ)
    (r : Option (Option (Filter × Report))) (s' : σ) (out : Stdout) : Prop :=
  match CommandLine.parse? i.arguments with
  | none => s' = s
  | some line => Frame Differs (i.config? line) line.command s (r.join.map Prod.snd) s' out

theorem RunFrame.mono {Differs Differs' : List Path → Path → σ → σ → Prop}
    (h : RunFrame Differs i s r s' out)
    (hdiffers : ∀ line config, CommandLine.parse? i.arguments = some line →
      i.config? line = some config → ∀ files ⊆
        [Path.ofString config, ConfigFile.beside (Path.ofString config)],
        Differs files (Path.ofString config) s s' → Differs' files (Path.ofString config) s s') :
    RunFrame Differs' i s r s' out := by
  rw [RunFrame] at h ⊢
  split
  next hparse =>
    rw [hparse] at h
    exact h
  next line hparse =>
    rw [hparse] at h
    exact Frame.mono h fun config => hdiffers line config hparse

variable [FileSystem σ]

/-! ## Printing -/

end AnchorOutline.Cli
