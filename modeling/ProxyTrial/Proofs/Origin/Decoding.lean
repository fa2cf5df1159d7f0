import ProxyTrial.Proofs.Origin.Snapshot
/-!
# Bodies are read as they were encoded

What a request has for a body is what its chunks encode, or as many octets as its length says; and
the octets after it are those of the next request.

## Main results

* `Request.read_encoded`: the body of a request, and what follows it
-/

namespace ProxyTrial

namespace Request

open Http (AsciiFields NamesChunked Encodes IsDecimal lengthLimit lengthText octetFields)

/-- A chunked body is what its chunks encode, and a body with a length is as many octets; what
follows it is left. -/
theorem read_encoded {hs : Headers} {target path : String} (h : AsciiFields hs)
    (hpath : Http.targetPath target = .ok path) (method : String) :
    (NamesChunked hs → ∀ cs octets rest, Encodes cs octets →
      read method target hs (octets ++ rest) =
        .ok (⟨method, path, octetFields hs, Text.ofUtf8Lenient cs.flatten⟩, rest)) ∧
    (¬ NamesChunked hs → ∀ n input, IsDecimal (lengthText hs) n → n < lengthLimit →
      read method target hs input =
        .ok (⟨method, path, octetFields hs, Text.ofUtf8Lenient (input.take n)⟩, input.drop n)) := by
  refine ⟨fun hc cs octets rest hencodes => ?_, fun hn n input hdecimal hlimit => ?_⟩
  · rw [read_eq h hpath, Http.readBody_of_chunked h hc, Http.readChunked_encoded hencodes]
    rfl
  · rw [read_eq h hpath, Http.readBody_of_notChunked h hn,
      Http.contentLength_of_isDecimal h hdecimal, Except.bind, Http.takeOctets, if_pos hlimit]
    rfl

/-- Chunks that hold what looks like other chunks, and a length of three. -/
theorem read_encoded_freely :
    let chunked : Headers := [("Content-Length", "99"), ("Transfer-Encoding", "gzip, Chunked")]
    let sized : Headers := [("Content-Length", "3")]
    read "PUT" "/a" chunked (Text.ascii "05\t;x=\"1\"\na\r\n0\n\r\n -0x_0_0\r\nT: 1\n\n" ++
        Text.ascii "GET") =
      .ok (⟨"PUT", "/a", octetFields chunked, Text.ofUtf8Lenient [Text.ascii "a\r\n0\n"].flatten⟩,
        Text.ascii "GET") ∧
    read "PUT" "/a" sized (Text.ascii "abcGET") =
      .ok (⟨"PUT", "/a", octetFields sized, Text.ofUtf8Lenient ((Text.ascii "abcGET").take 3)⟩,
        (Text.ascii "abcGET").drop 3) := by
  intro chunked sized
  have hpath : Http.targetPath "/a" = .ok "/a" := by decide +kernel
  have hchunked : NamesChunked chunked := by decide +kernel
  have hsized : ¬ NamesChunked sized := by decide +kernel
  have hthree : IsDecimal (lengthText sized) 3 := by
    have htext : lengthText sized = "3" := by decide +kernel
    rw [htext]
    exact ⟨by decide, List.all_iff_forall_prop.1 (by decide), by decide, by decide⟩
  have hzero : Http.SpellsZero (Text.ascii "-0x_0_0") :=
    @Http.SpellsZero.spelled (Text.ascii "-") (Text.ascii "0x_") _ (by decide) (by decide)
      (.underscore .zero)
  have hlast : Http.IsSizeLine (Text.ascii "-0x_0_0") (Text.ascii " -0x_0_0\r\n") :=
    @Http.IsSizeLine.mk _ [32] [] _ (by decide) (by decide) (.plain (.inl rfl))
  have htrailers : ∀ t ∈ [Text.ascii "T: 1\n"], Http.IsTrailer t :=
    List.forall_mem_singleton.2 ⟨by decide, Text.ascii "T: 1", by decide, by decide⟩
  have hfive : Http.IsHex (Text.ascii "05") (Text.ascii "a\r\n0\n").length :=
    ⟨by decide, List.all_iff_forall_prop.1 (by decide), by decide⟩
  have hline : Http.IsSizeLine (Text.ascii "05") (Text.ascii "05\t;x=\"1\"\n") :=
    @Http.IsSizeLine.mk _ [] [9] _ (by decide) (by decide)
      (@Http.SizeLineEnd.extension (Text.ascii "x=\"1\"") _ (by decide) (.inr rfl))
  have hencodes := Encodes.chunk hfive hline (by decide) (by decide) (.inl rfl)
    (.last hzero hlast htrailers (.inr rfl))
  exact ⟨(read_encoded (by decide) hpath "PUT").1 hchunked _ _ _ hencodes,
    (read_encoded (by decide) hpath "PUT").2 hsized 3 _ hthree (by decide)⟩

/-- Bodies that are not read for their fields, their length or their target, although nothing is
wrong with the framing. -/
theorem encoded_bodies_unread :
    Encodes [Text.ascii "hello"] (Text.ascii "5\r\nhello\r\n0\r\n\r\n") ∧
    NamesChunked [("Transfer-Encoding", "chunked"), ("X", "ÿ")] ∧
    read "PUT" "/" [("Transfer-Encoding", "chunked"), ("X", "ÿ")]
      (Text.ascii "5\r\nhello\r\n0\r\n\r\n") = .error (.field ⟨.ascii, 'ÿ', 0, 1⟩) ∧
    read "PUT" "http://[" [("Transfer-Encoding", "chunked")]
      (Text.ascii "5\r\nhello\r\n0\r\n\r\n") = .error (.target .brackets) ∧
    IsDecimal (lengthText [("Content-Length", "9223372036854775808")]) 9223372036854775808 ∧
    read "PUT" "/" [("Content-Length", "9223372036854775808")] (Text.ascii "hello") =
      .error (.body .tooLong) := by
  have hzero : Http.IsSizeLine (Text.ascii "0") (Text.ascii "0\r\n") :=
    @Http.IsSizeLine.mk _ [] [] _ (by decide) (by decide) (.plain (.inl rfl))
  have hfive : Http.IsHex (Text.ascii "5") (Text.ascii "hello").length :=
    ⟨by decide, List.all_iff_forall_prop.1 (by decide), by decide⟩
  have hline : Http.IsSizeLine (Text.ascii "5") (Text.ascii "5\r\n") :=
    @Http.IsSizeLine.mk _ [] [] _ (by decide) (by decide) (.plain (.inl rfl))
  have hlast : Encodes [] (Text.ascii "0\r\n\r\n") :=
    @Encodes.last _ _ _ [] (@Http.SpellsZero.spelled [] [] _ (by decide) (by decide) .zero)
      hzero (List.forall_mem_nil _) (.inl rfl)
  have hencodes : Encodes [Text.ascii "hello"] (Text.ascii "5\r\nhello\r\n0\r\n\r\n") :=
    .chunk hfive hline (by decide) (by decide) (.inl rfl) hlast
  have hdecimal : IsDecimal (lengthText [("Content-Length", "9223372036854775808")])
      9223372036854775808 := by
    have htext : lengthText [("Content-Length", "9223372036854775808")] =
      "9223372036854775808" := by
      decide +kernel
    rw [htext]
    exact ⟨by decide, List.all_iff_forall_prop.1 (by decide), by decide, by decide⟩
  exact ⟨hencodes, by decide +kernel, by decide +kernel, by decide +kernel, hdecimal,
    by decide +kernel⟩

end Request

end ProxyTrial
