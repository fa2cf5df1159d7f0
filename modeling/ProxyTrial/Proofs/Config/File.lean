import ProxyTrial.Config.File
import ProxyTrial.Proofs.Config.Lawful
import ProxyTrial.Proofs.Files.LineEnds
import ProxyTrial.Proofs.Files.Refusal
import ProxyTrial.Proofs.Utf8
import ProxyTrial.Proofs.Yaml.Composing
import ProxyTrial.Proofs.Yaml.Value
/-!
# Configurations that files hold

A file gives a lawful configuration, or what is wrong with it is a finding, for which callers are
prepared. The reading breaks down for three reasons only: there is a null character in the path, the
content is no text, or the text has a fault that is no flaw of its YAML. This is so whatever reader
of YAML there is. For `Yaml.read` such a fault is a number that cannot be read, or a node that
holds nothing of its kind.

## Main definitions

* `ConfigBreakdown load fs p problem`: why the reading of a file breaks down

## Main results

* `Yaml.not_isFlaw_iff_of_read`: which faults of a text are no flaws
* `FileSystem.readConfig_outcome`: what comes of the reading of a configuration
-/

namespace ProxyTrial

open Yaml

/-- The reading of a file breaks down: its path has a null character, its content is no text, or the
text, with its line ends unified, has a fault that is no flaw. -/
inductive ConfigBreakdown (load : String → Yaml.Result Value) (fs : FileSystem) (p : Path) :
    ConfigProblem → Prop
  | nullCharacter {e : FileError} : fs.read p = .error e → '\x00' ∈ p.shown.toList →
      ConfigBreakdown load fs p (.unreadable (.file e))
  | encoding {bs : Bytes} {e : Text.Utf8Error} : fs.read p = .ok bs → (∀ s, bs ≠ Text.utf8 s) →
      ConfigBreakdown load fs p (.unreadable (.encoding e))
  | yaml {s : String} {fault : Fault} : fs.read p = .ok (Text.utf8 s) →
      load (unified s) = .error fault → ¬ fault.IsFlaw → ConfigBreakdown load fs p (.yaml fault)

variable {load : String → Yaml.Result Value} {fs : FileSystem} {p : Path} {fault : Fault}

/-- What is wrong with a text: a flaw, a number that cannot be read, or a node that holds nothing of
its kind. -/
theorem Yaml.read_eq_error {s : String} (h : Yaml.read s = .error fault) :
    fault.IsFlaw ∨ BadNumber s.toList fault ∨
      ∃ d n x, Document.ofTokens (Tokens.ofText s) = .ok d ∧ d.node? = some n ∧
        (n.finite d.anchors).Contains x ∧ x.Unfit d.anchors fault := by
  rcases bind_eq_error.1 h with hdoc | ⟨d, hd, h⟩
  · rcases Document.ofTokens_eq_error hdoc with hflaw | htokens
    · exact .inl hflaw
    · exact (Tokens.fault_ofText htokens).imp_right .inl
  · split at h
    · next n hn =>
      rcases Node.value_eq_error h with hflaw | ⟨x, hx, hunfit⟩
      · exact .inl hflaw
      · exact .inr (.inr ⟨d, n, x, hd, hn, hx, hunfit⟩)
    · cases h

/-- The faults of a text that are no flaws are found in its numbers and nodes. -/
theorem Yaml.not_isFlaw_iff_of_read {s : String} (h : Yaml.read s = .error fault) :
    ¬ fault.IsFlaw ↔ BadNumber s.toList fault ∨
      ∃ d n x, Document.ofTokens (Tokens.ofText s) = .ok d ∧ d.node? = some n ∧
        (n.finite d.anchors).Contains x ∧ x.Unfit d.anchors fault := by
  constructor
  · exact (read_eq_error h).resolve_left
  · rintro (hnumber | ⟨d, n, x, -, -, -, hunfit⟩)
    · exact hnumber.not_isFlaw
    · exact hunfit.not_isFlaw

/-- A fault of a text is a finding if it is a flaw. -/
theorem isFinding_yaml : (ConfigError.mk p (.yaml fault)).isFinding = true ↔ fault.IsFlaw := by
  cases fault <;> simp [ConfigError.isFinding, Fault.IsFlaw]

/-- No breakdown is a finding. -/
theorem ConfigBreakdown.not_isFinding {problem : ConfigProblem}
    (h : ConfigBreakdown load fs p problem) : (ConfigError.mk p problem).isFinding = false := by
  cases h with
  | nullCharacter hread hnull =>
    have hrefusal := (FileSystem.read_not_isRefusal_iff hread).2 hnull
    simp [ConfigError.isFinding, ReadError.refusal?, hrefusal]
  | encoding hread htext => rfl
  | yaml hread hload hfault => exact Bool.eq_false_iff.2 (mt isFinding_yaml.1 hfault)

theorem readConfig_eq {s : String} (h : fs.read p = .ok (Text.utf8 s)) :
    fs.readConfig p load = (RunConfig.ofText (unified s) load).mapError (⟨p, ·⟩) := by
  rw [FileSystem.readConfig, FileSystem.readText, h]
  simp only [Text.ofUtf8_eq_ok_iff.2 rfl]
  rfl

/-- A text without a fault holds a lawful configuration, or that it holds none is a finding. -/
theorem ofText_outcome {s : String} {v : Value} (h : load s = .ok v) :
    (∃ c, RunConfig.ofText s load = .ok c ∧ c.Lawful) ∨
      ∃ problem, RunConfig.ofText s load = .error problem ∧
        ∀ p, (ConfigError.mk p problem).isFinding = true := by
  have hdata (v : Value) : (∃ c, (Schema.runConfig v).mapError ConfigProblem.refused = .ok c ∧
      c.Lawful) ∨
      ∃ problem, (Schema.runConfig v).mapError ConfigProblem.refused = .error problem ∧
        ∀ p, (ConfigError.mk p problem).isFinding = true := by
    cases hv : Schema.runConfig v with
    | ok c => exact .inl ⟨c, rfl, Schema.lawful_of_runConfig hv⟩
    | error refusal =>
      cases refusal with
      | invalid cs => exact .inr ⟨.refused (.invalid cs), rfl, fun _ => rfl⟩
      | failed f => exact absurd hv Schema.runConfig_ne_failed
  rw [RunConfig.ofText, h, mapError_eq_ok.2 rfl, ok_bind]
  split
  · exact hdata _
  · exact hdata _
  · exact .inr ⟨.notMapping, rfl, fun _ => rfl⟩

/-- The reading of a configuration gives one that is lawful, or an error. The error is a finding
unless the reading breaks down. -/
theorem FileSystem.readConfig_outcome (load : String → Yaml.Result Value) (fs : FileSystem)
    (p : Path) :
    (∃ c, fs.readConfig p load = .ok c ∧ c.Lawful) ∨
      ∃ problem, fs.readConfig p load = .error ⟨p, problem⟩ ∧
        ((ConfigError.mk p problem).isFinding = false ↔ ConfigBreakdown load fs p problem) := by
  cases hread : fs.read p with
  | error e =>
    refine .inr ⟨.unreadable (.file e), ?_, fun h => .nullCharacter hread ?_, (·.not_isFinding)⟩
    · rw [readConfig, readText, hread]
    · refine (read_not_isRefusal_iff hread).1 ?_
      simpa [ConfigError.isFinding, ReadError.refusal?] using h
  | ok bs =>
    cases htext : Text.ofUtf8 bs with
    | error e =>
      refine .inr ⟨.unreadable (.encoding e), ?_, fun _ => .encoding hread ?_,
        (·.not_isFinding)⟩
      · rw [readConfig, readText, hread]
        simp only [htext]
      · exact Text.ne_utf8_of_error htext
    | ok s =>
      obtain rfl := Text.ofUtf8_eq_ok_iff.1 htext
      rw [readConfig_eq hread]
      cases hvalue : load (unified s) with
      | error fault =>
        refine .inr ⟨.yaml fault, ?_, fun h => ?_, (·.not_isFinding)⟩
        · rw [RunConfig.ofText, hvalue]
          rfl
        · exact .yaml hread hvalue fun hflaw => Bool.eq_false_iff.1 h (isFinding_yaml.2 hflaw)
      | ok v =>
        rcases ofText_outcome hvalue with ⟨c, hc, hlawful⟩ | ⟨problem, hproblem, hfinding⟩
        · exact .inl ⟨c, mapError_eq_ok.2 hc, hlawful⟩
        · refine .inr ⟨problem, mapError_eq_error.2 ⟨_, hproblem, rfl⟩, fun h => ?_,
            (·.not_isFinding)⟩
          exact absurd (hfinding p) (Bool.eq_false_iff.1 h)

/-- A file whose content is no text: the reading breaks down. -/
theorem FileSystem.readConfig_no_text :
    let fs : FileSystem := { entries := [(["c.yaml"], .file [0xff])] }
    ∃ e, fs.readConfig (.ofText "c.yaml") = .error e ∧ e.isFinding = false :=
  ⟨_, rfl, rfl⟩

end ProxyTrial
