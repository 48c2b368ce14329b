import ScriptClient.Proofs.Demonstration.Typed
import ScriptClient.Proofs.SortedMap
import ScriptClient.Proofs.Text.Decimal
import ScriptClient.Proofs.Text.Quoted
import ScriptClient.Proofs.Text.Utf8
import ScriptClient.Proofs.Wire.Schema

set_option autoImplicit false

/-! # What complete responses show

The second call shows the headers of its response on one line, in the order of their names. The line
tells which headers they are, since every name and every value can be told from what follows it
(`prefixFree_entryText`). The third call shows the first characters of its response's body, be the
bytes broken or not. `headers_told` and `body_previewed` are the main results. -/

namespace ScriptClient.Demonstration

open Call Rpc

/-- A response that was written in any of its forms is the outcome of its call. -/
theorem decodeResponse_written {M : Type} [Wire.Message M] [Wire.LawfulMessage M] {m : M}
    {written : List UInt8} (h : Wire.Written m written) (hsize : written.length < UInt64.size) :
    decodeResponse (.ok written) = .ok m := by
  rw [decodeResponse, Wire.decode_written h hsize]

/-- A world that answers every script with one response. -/
def replying (response : ExecuteResponse) : World Api Api.Outcome Unit
  | .check _, state => (.ok {}, state)
  | .execute _, state => (.ok response, state)
  | .executeStream _, state => (.ok [], state)

/-! ## The line of the headers -/

/-- A header as it is shown. -/
def entryText (e : String × String) : String :=
  Text.Quoted.encode e.1 ++ ": " ++ Text.Quoted.encode e.2

/-- A list of headers as it is shown. -/
def entriesText (entries : List (String × String)) : String :=
  "\x7b" ++ ", ".intercalate (entries.map entryText) ++ "\x7d"

theorem showHeaders_eq (headers : SortedMap String) :
    showHeaders headers = entriesText headers.entries :=
  rfl

theorem toList_entryText (e : String × String) :
    (entryText e).toList =
      (Text.Quoted.encode e.1).toList ++ [':', ' '] ++ (Text.Quoted.encode e.2).toList := by
  rw [entryText, String.toList_append, String.toList_append]
  rfl

theorem toList_entriesText (entries : List (String × String)) :
    (entriesText entries).toList =
      ['\x7b'] ++ ([',', ' '].intercalate (entries.map fun e => (entryText e).toList) ++
        ['\x7d']) := by
  rw [entriesText, String.toList_append, String.toList_append, String.toList_intercalate,
    List.map_map, List.append_assoc]
  rfl

/-- It can be told where a header ends. -/
theorem prefixFree_entryText : Text.PrefixFree fun e => (entryText e).toList := by
  intro e f rest rest' h
  simp only [toList_entryText] at h
  exact Text.Quoted.prefixFree_encode.pair Text.Quoted.prefixFree_encode [':', ' '] h

/-- The brace behind the headers does not begin one. -/
theorem neverBegins_entryText : Text.NeverBegins (fun e => (entryText e).toList) '\x7d' := by
  refine Text.neverBegins_of_cons fun e => ?_
  rw [toList_entryText, Text.Quoted.toList_encode]
  exact ⟨'"', _, rfl, by decide⟩

/-- Different lists of headers are shown differently. -/
theorem entriesText_inj {l m : List (String × String)} : entriesText l = entriesText m ↔ l = m := by
  refine ⟨fun h => ?_, congrArg entriesText⟩
  have hlists := (prefixFree_entryText.separated neverBegins_entryText
    (by decide : ',' ≠ '\x7d') [' ']).behind ['\x7b']
  have hsame : (entriesText l).toList ++ [] = (entriesText m).toList ++ [] := by rw [h]
  rw [toList_entriesText, toList_entriesText] at hsame
  exact (hlists hsame).1

theorem showHeaders_inj {m n : SortedMap String} : showHeaders m = showHeaders n ↔ m = n := by
  rw [showHeaders_eq, showHeaders_eq, entriesText_inj]
  exact ⟨SortedMap.ext_entries, congrArg SortedMap.entries⟩

/-- The line of the headers, without its end. -/
def headersLine (headers : SortedMap String) : String :=
  "   Headers: " ++ showHeaders headers

theorem headersLine_inj {m n : SortedMap String} : headersLine m = headersLine n ↔ m = n := by
  rw [headersLine, headersLine, String.append_right_inj, showHeaders_inj]

/-- Headers are shown on one line. -/
theorem no_line_break_headersLine (headers : SortedMap String) :
    ∀ c ∈ (headersLine headers).toList, c ≠ '\n' ∧ c ≠ '\r' := by
  have hname : ∀ c ∈ "   Headers: ".toList, c ≠ '\n' ∧ c ≠ '\r' := by simp
  have hcolon : ∀ c ∈ [':', ' '], c ≠ '\n' ∧ c ≠ '\r' := by simp
  have hcomma : ∀ c ∈ [',', ' '], c ≠ '\n' ∧ c ≠ '\r' := by simp
  have hbraces : ∀ c ∈ ['\x7b', '\x7d'], c ≠ '\n' ∧ c ≠ '\r' := by simp
  have hentry : ∀ e, ∀ c ∈ (entryText e).toList, c ≠ '\n' ∧ c ≠ '\r' := by
    intro e c hc
    rw [toList_entryText, List.mem_append, List.mem_append] at hc
    rcases hc with (hc | hc) | hc
    · exact Text.Quoted.no_line_break_encode hc
    · exact hcolon c hc
    · exact Text.Quoted.no_line_break_encode hc
  intro c hc
  rw [headersLine, showHeaders_eq, String.toList_append, toList_entriesText, List.mem_append,
    List.mem_append, List.mem_append] at hc
  rcases hc with hc | hc | hc | hc
  · exact hname c hc
  · exact hbraces c (List.mem_cons.mpr (.inl (List.mem_singleton.mp hc)))
  · exact Text.forall_mem_intercalate_map hcomma hentry headers.entries c hc
  · exact hbraces c (List.mem_cons_of_mem _ hc)

/-- The lines that the second call shows of a response. -/
theorem exists_pageSection_eq (response : ExecuteResponse) :
    ∃ rest, sectionText 2 "Execute Script" (pageText (.ok response)) =
      Transcript.line "2. Execute Script:" ++
        (Transcript.line ("   Status Code: " ++ toString response.statusCode.toInt) ++
          (Transcript.line (headersLine response.headers) ++ rest)) := by
  have htitle : Transcript.title 2 "Execute Script" = Transcript.line "2. Execute Script:" := rfl
  have hfield : Transcript.field "Headers" (showHeaders response.headers) =
      Transcript.line (headersLine response.headers) := rfl
  simp only [sectionText, pageText, htitle, hfield, String.append_assoc]
  exact ⟨_, rfl⟩

/-- The third line of what the second call shows. -/
def headersLine? (o : Except Failure ExecuteResponse) : Option String :=
  (Text.splitAt '\n' (sectionText 2 "Execute Script" (pageText o)).toList)[2]?.map String.ofList

theorem splitAt_line {text : String} (h : '\n' ∉ text.toList) (rest : String) :
    Text.splitAt '\n' (Transcript.line text ++ rest).toList =
      text.toList :: Text.splitAt '\n' rest.toList := by
  rw [Transcript.line, String.toList_append, String.toList_append, List.append_assoc]
  exact Text.splitAt_append_cons h _

/-- The line of the headers is the third, whatever the headers are. -/
theorem headersLine?_ok (response : ExecuteResponse) :
    headersLine? (.ok response) = some (headersLine response.headers) := by
  have htitle : '\n' ∉ "2. Execute Script:".toList := by decide
  have hstatus : '\n' ∉ ("   Status Code: " ++ toString response.statusCode.toInt).toList := by
    intro hmem
    rw [String.toList_append, List.mem_append] at hmem
    rcases hmem with hname | hcode
    · revert hname
      decide
    · rcases Text.Decimal.mem_toString_int hcode with hdigit | hsign
      · exact absurd hdigit (by decide)
      · exact absurd hsign (by decide)
  have hheaders : '\n' ∉ (headersLine response.headers).toList :=
    fun hmem => (no_line_break_headersLine _ _ hmem).1 rfl
  obtain ⟨rest, hsection⟩ := exists_pageSection_eq response
  rw [headersLine?, hsection, splitAt_line htitle, splitAt_line hstatus, splitAt_line hheaders]
  exact congrArg some String.ofList_toList

/-- **Headers.** The third line that the second call shows of a response is the line of its headers,
and has no line break in it. It is the same line in whatever order the headers were sent, and in
whatever order they were stored. It lists them with the bytes of their names in increasing order.
Responses with different headers have different lines. The line stands in the transcript of every
run in which this response is what the second call comes to. -/
theorem headers_told (response : ExecuteResponse) :
    let line := headersLine response.headers
    (headersLine? (.ok response) = some line ∧ ∀ c ∈ line.toList, c ≠ '\n' ∧ c ≠ '\r') ∧
      (∀ {received : List UInt8}, Wire.Written response received →
        received.length < UInt64.size →
          headersLine? (decodeResponse (.ok received)) = some line) ∧
      (∀ {stored : List (String × String)}, stored.Perm response.headers.entries →
        headersLine? (.ok { response with headers := .ofList stored }) = some line) ∧
      (∃ listed : List (String × String),
        (∀ l, line = "   Headers: " ++ entriesText l ↔ l = listed) ∧
          listed.Pairwise (fun a b => Text.Utf8.encode a.1 < Text.Utf8.encode b.1) ∧
          ∀ name value, (name, value) ∈ listed ↔ response.headers.get? name = some value) ∧
      (∀ other : ExecuteResponse, headersLine? (.ok other) = headersLine? (.ok response) ↔
        other.headers = response.headers) ∧
      ∀ {State : Type} (world : World Api Api.Outcome State) (state : State) (flushFails : Bool),
        (Outcomes.ofWorld world state).page = .ok response →
          ∃ rest, (fourCalls.run world { flushFails := flushFails } state).output =
            Text.Utf8.encode (Outcomes.opening ++
              sectionText 1 "Health Check" (healthText (Outcomes.ofWorld world state).health) ++
              "2. Execute Script:\n   Status Code: " ++ toString response.statusCode.toInt ++
              "\n" ++ line ++ "\n" ++ rest) := by
  intro line
  refine ⟨⟨headersLine?_ok response, no_line_break_headersLine response.headers⟩, ?_, ?_,
    ⟨response.headers.entries, ?_, ?_, ?_⟩, ?_, ?_⟩
  · intro received hwritten hsize
    rw [decodeResponse_written hwritten hsize, headersLine?_ok]
  · intro stored hperm
    rw [SortedMap.ofList_perm hperm, headersLine?_ok]
  · intro l
    show headersLine response.headers = _ ↔ _
    rw [headersLine, String.append_right_inj, showHeaders_eq, entriesText_inj, eq_comm]
  · exact response.headers.sorted.imp Text.Utf8.encode_lt_encode_iff.mpr
  · exact fun name value => SortedMap.mem_entries_iff
  · intro other
    rw [headersLine?_ok, headersLine?_ok, Option.some.injEq, headersLine_inj]
  · intro State world state flushFails hpage
    obtain ⟨-, houtput, -⟩ := run_fourCalls_eq world state flushFails
    obtain ⟨rest, hsection⟩ := exists_pageSection_eq response
    refine ⟨rest ++
      sectionText 3 "Execute POST Request" (formText (Outcomes.ofWorld world state).form) ++
      sectionText 4 "Streaming Response" (streamText (Outcomes.ofWorld world state).stream), ?_⟩
    rw [houtput, Outcomes.transcript, hpage, hsection]
    simp only [Transcript.line, String.append_assoc]
    rfl

/-- A response with two headers, one of them with a line break and a quote. -/
def twoHeaders : ExecuteResponse :=
  { statusCode := 200, headers := .ofList [("b", "1"), ("a", "\n\"")] }

/-- Headers that arrive in one order and are stored in the other have one line. -/
theorem headers_told_two :
    [("b", "1"), ("a", "\n\"")].Perm twoHeaders.headers.entries ∧
      (Wire.encode twoHeaders).length < UInt64.size ∧
      (Outcomes.ofWorld (replying twoHeaders) ()).page = .ok twoHeaders ∧
      headersLine? (.ok twoHeaders) = some "   Headers: \x7b\"a\": \"\\n\\\"\", \"b\": \"1\"\x7d" ∧
      headersLine? (decodeResponse (.ok (Wire.encode twoHeaders))) =
        headersLine? (.ok twoHeaders) ∧
      headersLine? (.ok { twoHeaders with headers := .ofList [("b", "1"), ("a", "\n\"")] }) =
        headersLine? (.ok twoHeaders) ∧
      ∃ before rest, (fourCalls.run (replying twoHeaders) {} ()).output =
        Text.Utf8.encode (before ++ headersLine twoHeaders.headers ++ "\n" ++ rest) := by
  have hperm : [("b", "1"), ("a", "\n\"")].Perm twoHeaders.headers.entries := by decide +kernel
  have hsize : (Wire.encode twoHeaders).length < UInt64.size := by decide +kernel
  have hline : headersLine twoHeaders.headers =
      "   Headers: \x7b\"a\": \"\\n\\\"\", \"b\": \"1\"\x7d" := by
    decide +kernel
  obtain ⟨⟨htold, -⟩, hreceived, hstored, -, -, hrun⟩ := headers_told twoHeaders
  refine ⟨hperm, hsize, rfl, ?_, ?_, ?_, ?_⟩
  · rw [htold, hline]
  · rw [htold, hreceived (Wire.written_encode twoHeaders) hsize]
  · rw [htold, hstored hperm]
  · obtain ⟨rest, houtput⟩ := hrun (replying twoHeaders) () false rfl
    exact ⟨_, rest, houtput⟩

/-! ## The start of the body -/

/-- The lines that the third call shows of a response. -/
theorem formSection_eq (response : ExecuteResponse) :
    sectionText 3 "Execute POST Request" (formText (.ok response)) =
      "3. Execute POST Request:\n   Status Code: " ++ toString response.statusCode.toInt ++
        "\n   Body: " ++ String.ofList (Text.Utf8.preview previewLength response.body) ++
        "...\n\n" := by
  simp only [sectionText, formText, Transcript.field, Transcript.line, String.append_assoc]
  rfl

/-- **The start of a body.** A run in which the third call comes to a response shows a line with the
first characters of its body, and the body fails no call, whatever its bytes are. The characters are
at most 200, the first ones of all that can be read, and depend on the first 800 bytes alone. If the
bytes are those of a text, the characters are the first ones of the text, and none is a replacement
that the text does not have. -/
theorem body_previewed {State : Type} (world : World Api Api.Outcome State) (state : State)
    (flushFails : Bool) {response : ExecuteResponse}
    (h : (Outcomes.ofWorld world state).form = .ok response) :
    let o := Outcomes.ofWorld world state
    let r := fourCalls.run world { flushFails := flushFails } state
    let shown := Text.Utf8.preview previewLength response.body
    (r.output = Text.Utf8.encode (Outcomes.opening ++
          sectionText 1 "Health Check" (healthText o.health) ++
          sectionText 2 "Execute Script" (pageText o.page) ++
          "3. Execute POST Request:\n   Status Code: " ++ toString response.statusCode.toInt ++
          "\n   Body: " ++ String.ofList shown ++ "...\n\n" ++
          sectionText 4 "Streaming Response" (streamText o.stream)) ∧
        ∃ tally, r.result = .ok tally ∧ tally.succeeded + tally.failed = 4 ∧
          tally.failed = [o.health.isOk, o.page.isOk, streamOk o.stream].count false) ∧
      (∀ {received : List UInt8}, Wire.Written response received →
        received.length < UInt64.size → decodeResponse (.ok received) = .ok response) ∧
      shown.length ≤ 200 ∧ shown = (Text.Utf8.lossy response.body).take 200 ∧
      Text.Utf8.preview previewLength (response.body.take 800) = shown ∧
      (∀ bytes : List UInt8, bytes.take 800 = response.body.take 800 →
        Text.Utf8.preview previewLength bytes = shown) ∧
      ∀ text : String, Text.Utf8.encode text = response.body →
        shown = text.toList.take (min 200 text.length) ∧
          ('\ufffd' ∈ shown → '\ufffd' ∈ text.toList) := by
  intro o r shown
  obtain ⟨hresult, houtput, -⟩ := run_fourCalls_eq world state flushFails
  refine ⟨⟨?_, _, hresult, total_foldl_record o.completed {}, ?_⟩, decodeResponse_written,
    Text.Utf8.length_preview_le _ _, (Text.Utf8.take_lossy _ _).symm,
    Text.Utf8.preview_take previewLength _, ?_, ?_⟩
  · rw [houtput, Outcomes.transcript, h, formSection_eq]
    simp only [String.append_assoc]
    rfl
  · have hcount : ∀ a b c : Bool, [a, b, true, c].count false = [a, b, c].count false := by decide
    rw [failed_foldl_record, Outcomes.completed, h]
    exact (Nat.zero_add _).trans (hcount _ _ _)
  · intro bytes hbytes
    exact Text.Utf8.preview_congr hbytes
  · intro text htext
    have hshown : shown = text.toList.take previewLength := by
      show Text.Utf8.preview previewLength response.body = _
      rw [← htext, Text.Utf8.preview_encode]
    refine ⟨?_, fun hmem => ?_⟩
    · rw [hshown, ← String.length_toList, List.take_eq_take_min]
      rfl
    · rw [hshown] at hmem
      exact List.mem_of_mem_take hmem

/-- A text whose characters are two bytes each. -/
def longText : String := String.ofList (List.replicate 500 'é')

/-- A response with a text as its body. -/
def longResponse : ExecuteResponse :=
  { statusCode := 200, body := Text.Utf8.encode longText }

/-- What stands behind the first 800 bytes makes no difference. -/
theorem body_previewed_beyond_ascii :
    (Outcomes.ofWorld (replying longResponse) ()).form = .ok longResponse ∧
      (Wire.encode longResponse).length < UInt64.size ∧
      decodeResponse (.ok (Wire.encode longResponse)) = .ok longResponse ∧
      Text.Utf8.preview previewLength longResponse.body = List.replicate 200 'é' ∧
      Text.Utf8.preview previewLength (longResponse.body.take 900) = List.replicate 200 'é' := by
  have hform : (Outcomes.ofWorld (replying longResponse) ()).form = .ok longResponse := rfl
  have hsize : (Wire.encode longResponse).length < UInt64.size := by decide +kernel
  obtain ⟨-, hreceived, -, -, -, hsame, htext⟩ :=
    body_previewed (replying longResponse) () false hform
  have hshown : Text.Utf8.preview previewLength longResponse.body = List.replicate 200 'é' := by
    have hbody : Text.Utf8.encode longText = longResponse.body := by rw [longResponse]
    have hchars : longText.toList = List.replicate 500 'é' := String.toList_ofList
    rw [(htext longText hbody).1, ← String.length_toList, hchars, List.length_replicate,
      List.take_replicate]
    rfl
  have hcut : (longResponse.body.take 900).take 800 = longResponse.body.take 800 := by
    rw [List.take_take, Nat.min_eq_left (by decide)]
  refine ⟨hform, hsize, hreceived (Wire.written_encode longResponse) hsize, hshown, ?_⟩
  rw [hsame _ hcut, hshown]

end ScriptClient.Demonstration
