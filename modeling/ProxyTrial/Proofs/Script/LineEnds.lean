import ProxyTrial.Proofs.Files.LineEnds
import ProxyTrial.Proofs.Files.System
import ProxyTrial.Proofs.Script.Layout
import ProxyTrial.Proofs.Utf8
import ProxyTrial.Script.File
/-!
# Line ends of scripts in files

To a script a carriage return is a blank, but the line ends of a text in a file are unified before
the script is read. What is a blank in front of a line feed may go: the line break is the same, at
the same place, and so is all that follows it. Hence the script in a file is that of the text which
the file holds if its carriage returns stand in front of line feeds, and in no string. In any other
text there are more lines when it is read from a file, or other strings.

## Main definitions

* `PlainLineEnds source`: carriage returns stand in front of line feeds, and in no string

## Main results

* `Scans.withoutReturns`, `Tiling.withoutReturns`: the pieces of a text without carriage returns
* `ofText_unified_iff`: the texts whose tokens do not depend on how their lines end
* `readScript_of_encoded`: the script in a file, and that of its text
-/

namespace ProxyTrial.Script

variable {cs piece rest : List Char} {k : Kind} {w source : String} {p : Place} {s : TokenStream}
  {t : Token}

/-! ## Pieces without carriage returns -/

/-- Paired carriage returns are the ends of their lines, so that nothing stands elsewhere without
them. -/
theorem Place.after_withoutReturns (h : PairedReturns cs) (p : Place) :
    p.after (withoutReturns cs) = p.after cs := by
  rw [← h.unifyLineEnds_eq]
  fun_induction unifyLineEnds cs generalizing p with
  | case1 cs ih => exact ih h.behind_pair _
  | case2 cs hne =>
    obtain ⟨ds, rfl⟩ := h.lineFeed
    exact absurd rfl (hne ds)
  | case3 c cs _ hne ih => exact ih (pairedReturns_cons.1 h).2 _
  | case4 => rfl

/-- No piece ends between a carriage return and its line feed. -/
theorem Scans.cut (h : Scans piece rest k w) :
    piece.getLast? ≠ some '\r' ∨ rest.head? ≠ some '\n' := by
  have hlayout : IsRun isLayout piece rest → rest.head? ≠ some '\n' :=
    fun hrun hhead => nomatch hrun.maximal '\n' hhead
  cases h with
  | blank hrun _ => exact .inr (hlayout hrun)
  | lineBreak hrun _ => exact .inr (hlayout hrun)
  | comment hc =>
    obtain ⟨text, -, rfl⟩ := hc
    exact .inl (by rw [List.getLast?_concat]; decide)
  | word hrun _ =>
    refine .inl fun hlast => ?_
    exact nomatch hrun.all '\r' (List.mem_of_getLast? hlast)
  | string _ => exact .inl (by rw [List.getLast?_concat]; decide)
  | openString _ => exact .inr (by simp)
  | mark hmark _ _ _ =>
    refine .inl fun hlast => ?_
    obtain rfl := Option.some.inj hlast
    cases hmark

/-- What ends a run of blanks or of name characters ends it without carriage returns as well. -/
theorem maximal_withoutReturns {q : Char → Bool} (hpaired : PairedReturns rest)
    (hlineFeed : q '\r' = false → q '\n' = false) (h : ∀ c ∈ rest.head?, q c = false) :
    ∀ c ∈ (withoutReturns rest).head?, q c = false := by
  cases rest with
  | nil => exact h
  | cons d rest =>
    by_cases hd : d = '\r'
    · subst hd
      obtain ⟨ds, rfl⟩ := hpaired.lineFeed
      rintro c ⟨⟩
      exact hlineFeed (h '\r' rfl)
    · rw [withoutReturns_cons hd]
      exact h

/-- A piece is of the same kind without carriage returns, unless it is a string that has one. -/
theorem Scans.withoutReturns (h : Scans piece rest k w) (hpaired : PairedReturns (piece ++ rest))
    (hstring : k = .string → '\r' ∉ w.toList) :
    Scans (withoutReturns piece) (withoutReturns rest) k w := by
  have hrest := hpaired.right
  -- Blanks and name characters end where they did.
  have hrun : ∀ {q : Char → Bool}, (q '\r' = false → q '\n' = false) → IsRun q piece rest →
      ProxyTrial.withoutReturns piece ≠ [] →
      IsRun q (ProxyTrial.withoutReturns piece) (ProxyTrial.withoutReturns rest) := by
    intro q hlineFeed hrun hne
    exact ⟨hne, fun c hc => hrun.all c (mem_withoutReturns.1 hc).1,
      maximal_withoutReturns hrest hlineFeed hrun.maximal⟩
  cases h with
  | blank hlayout hn =>
    -- A carriage return among the blanks would have its line feed there.
    have hreturn : '\r' ∉ piece := by
      intro hmem
      obtain ⟨before, after, rfl⟩ := List.append_of_mem hmem
      have hafter := hpaired before (after ++ rest) (by simp)
      cases after with
      | nil => exact absurd (hlayout.maximal '\n' hafter) (by decide)
      | cons c after =>
        obtain rfl := Option.some.inj hafter
        exact hn (by simp)
    have hsame := withoutReturns_of_notMem hreturn
    have hrun := hrun (q := isLayout) nofun hlayout (hsame.symm ▸ hlayout.ne_nil)
    rw [hsame] at hrun ⊢
    exact .blank hrun hn
  | lineBreak hlayout hn =>
    have hmem : '\n' ∈ ProxyTrial.withoutReturns piece := mem_withoutReturns.2 ⟨hn, by decide⟩
    exact .lineBreak (hrun (q := isLayout) nofun hlayout (List.ne_nil_of_mem hmem)) hmem
  | comment hc =>
    obtain ⟨text, hn, rfl⟩ := hc
    refine .comment ⟨ProxyTrial.withoutReturns text,
      fun hmem => hn (mem_withoutReturns.1 hmem).1, ?_⟩
    rw [List.cons_append, withoutReturns_cons (by decide), withoutReturns_append]
    rfl
  | word hword hkind =>
    have hreturn : '\r' ∉ piece := fun hmem => absurd (hword.all '\r' hmem) (by decide)
    have hsame := withoutReturns_of_notMem hreturn
    have hrun := hrun (fun _ => rfl) hword (hsame.symm ▸ hword.ne_nil)
    rw [hsame] at hrun ⊢
    exact .word hrun hkind
  | @string text _ hn =>
    have hreturn : '\r' ∉ '"' :: text ++ ['"'] := by simpa using hstring rfl
    rw [withoutReturns_of_notMem hreturn]
    exact .string hn
  | @openString text hn =>
    have hreturn : '\r' ∉ '"' :: text := by simpa using hstring rfl
    rw [withoutReturns_of_notMem hreturn]
    exact .openString hn
  | @mark c _ hlayout hname hquote hhash =>
    have hreturn : '\r' ∉ [c] := fun hmem => by
      obtain rfl := List.mem_singleton.1 hmem
      cases hlayout
    rw [withoutReturns_of_notMem hreturn]
    exact .mark hlayout hname hquote hhash

/-- The tokens that stand for the pieces of a text stand for those without carriage returns. -/
theorem Tiling.withoutReturns (h : Tiling p cs s) (hpaired : PairedReturns cs)
    (hstring : ∀ t ∈ s.ahead, t.kind = .string → '\r' ∉ t.text.toList) :
    Tiling p (withoutReturns cs) s := by
  induction h with
  | done p => exact .done p
  | @openComment p cs hopen =>
    obtain ⟨text, hn, rfl⟩ := hopen
    rw [← Place.after_withoutReturns hpaired p]
    exact .openComment ⟨ProxyTrial.withoutReturns text,
      fun hmem => hn (mem_withoutReturns.1 hmem).1, withoutReturns_cons (by decide) _⟩
  | @token p piece rest k w s hs _ ih =>
    obtain ⟨hfirst, hothers⟩ := List.forall_mem_cons.1 hstring
    have hrest := ih hpaired.right hothers
    rw [← Place.after_withoutReturns (hpaired.left hs.cut) p] at hrest
    rw [withoutReturns_append]
    exact .token (hs.withoutReturns hpaired hfirst) hrest

/-- The text of a string stands in the text. -/
theorem Tiling.string_subset (h : Tiling p cs s) (ht : t ∈ s.ahead) (hk : t.kind = .string) :
    t.text.toList ⊆ cs := by
  induction h with
  | done p => cases ht
  | openComment _ => cases ht
  | @token p piece rest k w s hs _ ih =>
    rcases List.mem_cons.1 ht with rfl | ht
    · obtain rfl : k = .string := hk
      refine fun c hc => List.mem_append_left rest ?_
      generalize hkind : Kind.string = k at hs
      cases hs with
      | string _ => simp [show c ∈ _ by simpa using hc]
      | openString _ => simp [show c ∈ _ by simpa using hc]
      | word _ _ => simpa using hc
      | mark _ _ _ _ => simpa using hc
      | blank _ _ => cases hkind
      | lineBreak _ _ => cases hkind
      | comment _ => cases hkind
    · exact fun c hc => List.mem_append_right piece (ih ht hc)

/-! ## Texts with unified line ends -/

/-- Carriage returns stand in front of line feeds, and in no string. -/
structure PlainLineEnds (source : String) : Prop where
  paired : PairedReturns source.toList
  outside : ∀ t ∈ (TokenStream.ofText source).ahead, t.kind = .string → '\r' ∉ t.text.toList

theorem finish_ofText (source : String) :
    (TokenStream.ofText source).finish = .behind source.toList := by
  obtain ⟨_, _, -, -, -, hfinish, -⟩ := (tiling_ofText source).pieces
  rw [hfinish, Place.after_start]

/-- A text has the same tokens with unified line ends exactly if its line ends are plain. -/
theorem ofText_unified_iff (source : String) :
    TokenStream.ofText (unified source) = TokenStream.ofText source ↔ PlainLineEnds source := by
  constructor
  · intro h
    refine ⟨pairedReturns_of_count_eq ?_, fun t ht hk hreturn => ?_⟩
    · -- The end is on the same line.
      have hfinish := finish_ofText (unified source)
      rw [h, finish_ofText, unified, String.toList_ofList] at hfinish
      exact (Nat.add_left_cancel (congrArg Place.line hfinish)).symm
    · rw [← h] at ht
      have hmem := (tiling_ofText (unified source)).string_subset ht hk hreturn
      rw [unified, String.toList_ofList] at hmem
      exact return_notMem_unifyLineEnds _ hmem
  · rintro ⟨hpaired, houtside⟩
    have htiling := (tiling_ofText source).withoutReturns hpaired houtside
    rw [← hpaired.unifyLineEnds_eq] at htiling
    rw [htiling.eq_ofLexemes, TokenStream.ofText, unified, String.toList_ofList]

theorem parse_congr {source' : String}
    (h : TokenStream.ofText source' = TokenStream.ofText source) :
    parse source' = parse source := by
  rw [parse, parse, h]

end Script

open Script

/-- A file that holds a text holds the script of the text with unified line ends. -/
theorem FileSystem.readScript_eq {fs : FileSystem} {path : Path} {source : String}
    (h : fs.read path = .ok (Text.utf8 source)) :
    fs.readScript path = (Script.parse (unified source)).mapError .script := by
  rw [readScript, readText, h]
  simp only [Text.ofUtf8_eq_ok_iff.2 rfl]
  rfl

/-- A script is read from a file as the text that the file holds, but for how the lines of the text
end. The tokens are those of the text exactly if its line ends are plain, and the outcome is that of
the text then, with the same script or the same error at the same place. A script is the same
also if line breaks come and go outside of `tx` commands only. -/
theorem FileSystem.readScript_of_encoded {fs : FileSystem} {path : Path} {source : String}
    (h : fs.read path = .ok (Text.utf8 source)) :
    fs.readScript path = (Script.parse (unified source)).mapError .script ∧
      (TokenStream.ofText (unified source) = TokenStream.ofText source ↔ PlainLineEnds source) ∧
      (PlainLineEnds source → fs.readScript path = (Script.parse source).mapError .script) ∧
      ∀ script, Script.parse source = .ok script →
        Relaid (symbols source) (symbols (unified source)) → fs.readScript path = .ok script := by
  have hread := readScript_eq h
  refine ⟨hread, ofText_unified_iff source, fun hplain => ?_, fun script hparse hrelaid => ?_⟩
  · rw [hread, parse_congr ((ofText_unified_iff source).2 hplain)]
  · rw [hread, parse_relaid hparse hrelaid]
    rfl

/-- A script whose lines end with both characters. -/
theorem FileSystem.readScript_of_encoded_paired :
    let source := "client \"c\" \x7b\r\n\x7d\r\n"
    let path : Path := ⟨"", ["c.htc"]⟩
    let fs : FileSystem := { entries := [(["c.htc"], .file (Text.utf8 source))] }
    fs.read path = .ok (Text.utf8 source) ∧ PlainLineEnds source ∧
      fs.readScript path = (Script.parse source).mapError .script := by
  intro source path fs
  have hlocate : fs.locate path = .ok ["c.htc"] := by decide +kernel
  have hread : fs.read path = .ok (Text.utf8 source) :=
    read_of_locate hlocate (by simp [fs, entry?])
  obtain ⟨-, hplain, hscript, -⟩ := readScript_of_encoded hread
  have hends : PlainLineEnds source := hplain.1 (by decide +kernel)
  exact ⟨hread, hends, hscript hends⟩

/-- A carriage return in a string is a line feed when the string is read from a file. -/
theorem FileSystem.readScript_return_in_string :
    let source := "client \"a\rb\" \x7b \x7d"
    let path : Path := ⟨"", ["a.htc"]⟩
    let fs : FileSystem := { entries := [(["a.htc"], .file (Text.utf8 source))] }
    fs.read path = .ok (Text.utf8 source) ∧
      (Script.parse source).toOption.map (·.clients.map (·.name)) = some ["a\rb"] ∧
      (fs.readScript path).toOption.map (·.clients.map (·.name)) = some ["a\nb"] ∧
      fs.readScript path ≠ (Script.parse source).mapError .script := by
  intro source path fs
  have hlocate : fs.locate path = .ok ["a.htc"] := by decide +kernel
  have hread : fs.read path = .ok (Text.utf8 source) :=
    read_of_locate hlocate (by simp [fs, entry?])
  have hparse : (Script.parse source).toOption.map (·.clients.map (·.name)) = some ["a\rb"] := by
    decide +kernel
  have hscript : (fs.readScript path).toOption.map (·.clients.map (·.name)) = some ["a\nb"] := by
    decide +kernel
  refine ⟨hread, hparse, hscript, fun heq => ?_⟩
  rw [heq] at hscript
  cases h : Script.parse source with
  | error e => simp [h, Except.toOption] at hparse
  | ok script =>
    rw [h] at hparse hscript
    exact absurd (hparse.symm.trans hscript) (by decide)

end ProxyTrial
