import ProxyTunnel.Proofs.Request.Framing
import ProxyTunnel.Proofs.Response.Written
import ProxyTunnel.Proofs.Text.Utf8

/-!
A request read as if it were a response: its request line stands for the status line, and `Host` is
its only header. So what it asks for can be read off its bytes.
-/

set_option autoImplicit false

namespace ProxyTunnel.Request

open HeadText

-- A text on one line.
def OneLine (text : String) : Prop := '\r' ∉ text.toList ∧ '\n' ∉ text.toList

-- A request whose texts stay on their lines and that is not cut off.
structure Clean (r : Request) : Prop where
  verb : OneLine r.verb
  path : OneLine r.path
  host : OneLine r.host
  whole : r.truncated = false

def requestLine (r : Request) : String := r.verb ++ " " ++ r.path ++ " HTTP/1.1"

theorem one_line_plain (text : String) (single : OneLine text) : Plain (Utf8.encode text) :=
  ⟨fun held => single.1 (Utf8.plain_byte text 13 (by decide) held),
    fun held => single.2 (Utf8.plain_byte text 10 (by decide) held)⟩

theorem one_line_append (a b : String) (first : OneLine a) (second : OneLine b) :
    OneLine (a ++ b) := by
  simp only [OneLine, String.toList_append, List.mem_append, not_or]
  exact ⟨⟨first.1, second.1⟩, ⟨first.2, second.2⟩⟩

theorem request_line_plain (r : Request) (clean : r.Clean) :
    Plain (Utf8.encode r.requestLine) := by
  have blank : OneLine " " := ⟨by decide, by decide⟩
  have version : OneLine " HTTP/1.1" := ⟨by decide, by decide⟩
  apply one_line_plain
  exact one_line_append _ _ (one_line_append _ _ (one_line_append _ _ clean.verb blank) clean.path)
    version

-- The request as a head that is written: one header, and each line closed by a return and a newline.
def written (r : Request) (clean : r.Clean) : Written where
  status := Utf8.encode r.requestLine
  statusNewline := .withReturn
  headers :=
    [{ key := Utf8.encode "Host"
       value := Utf8.encode r.host
       newline := .withReturn
       keyed := by decide
       keyPlain := by decide
       keyWhole := by decide
       valuePlain := one_line_plain r.host clean.host }]
  closing := .withReturn
  statusPlain := request_line_plain r clean

theorem written_text (r : Request) (clean : r.Clean) : (r.written clean).bytes = r.text := by
  have middle : Utf8.encode " HTTP/1.1\r\nHost: " =
      Utf8.encode " HTTP/1.1" ++ [13, 10] ++ Utf8.encode "Host" ++ [58, 32] := by decide
  have last : Utf8.encode "\r\n\r\n" = [13, 10, 13, 10] := by decide
  simp [Written.bytes, written, WrittenHeader.bytes, WrittenHeader.line, Newline.bytes,
    Newline.returns, text, pieces, requestLine, Utf8.encode_append, middle, last]

def message (r : Request) (clean : r.Clean) : Message where
  toWritten := r.written clean
  few := Nat.le_add_left 1 30
  short := by
    rw [written_text]
    exact (List.length_filter_le _ _).trans (bytes_whole r clean.whole).2

-- What a head says of a request.
structure Tells (head : Head) (r : Request) : Prop where
  complete : head.termination = .blankLine
  statusLine : head.statusLine = r.verb ++ " " ++ r.path ++ " HTTP/1.1"
  headers : head.headers = [(Utf8.encode "Host", Utf8.encode r.host)]
  host : head.get? "Host" = if r.host = "" then none else some r.host

theorem shown_tells (r : Request) (clean : r.Clean) (head : Head)
    (complete : head.termination = .blankLine) (shows : Shows head (r.written clean)) :
    Tells head r where
  complete := complete
  statusLine := shows.statusLine.trans (Utf8.lossy_encode r.requestLine)
  headers := shows.headers
  host := by
    have found : ((r.written clean).pairs.find? (·.1 = Utf8.encode "Host")) =
        some (Utf8.encode "Host", Utf8.encode r.host) := by
      simp [Written.pairs, written, WrittenHeader.pair]
    rw [shows.get, found]
    simp only [Option.bind_some, Utf8.encode_empty, Utf8.decode_encode]

theorem request_reads (r : Request) (clean : r.Clean) (rest : List ReadOutcome) :
    ∃ head, Head.read (r.bytes.map .byte ++ rest) = (head, rest) ∧ Tells head r := by
  have same : r.bytes = (r.message clean).bytes :=
    (bytes_whole r clean.whole).1.trans (r.written_text clean).symm
  rw [same, message_closes (r.message clean) rest (Nat.le_add_left 1 29)]
  exact ⟨_, rfl, shown_tells r clean _ rfl ((r.written clean).closed_shows [[]] _ (by simp))⟩

theorem bytes_tell (a b : Request) (cleanA : a.Clean) (cleanB : b.Clean)
    (same : a.bytes = b.bytes) :
    a.host = b.host ∧ a.verb ++ " " ++ a.path = b.verb ++ " " ++ b.path := by
  obtain ⟨head, read, tells⟩ := request_reads a cleanA []
  obtain ⟨other, again, tellsB⟩ := request_reads b cleanB []
  rw [same, again] at read
  cases read
  have hosts : Utf8.encode a.host = Utf8.encode b.host := by
    have headers := tells.headers.symm.trans tellsB.headers
    simpa using headers
  have lines := tells.statusLine.symm.trans tellsB.statusLine
  refine ⟨?_, ?_⟩
  · have back := Utf8.decode_encode a.host
    rw [hosts, Utf8.decode_encode] at back
    exact (Option.some.inj back).symm
  · exact String.append_left_inj _ |>.mp lines

theorem request_reads_back :
    (∀ (r : Request) (rest : List ReadOutcome), r.Clean →
      let (head, left) := Head.read (r.bytes.map .byte ++ rest)
      left = rest ∧ Tells head r) ∧
    ∀ a b : Request, a.Clean → b.Clean →
      a.host ≠ b.host ∨ a.verb ++ " " ++ a.path ≠ b.verb ++ " " ++ b.path → a.bytes ≠ b.bytes := by
  refine ⟨?_, ?_⟩
  · intro r rest clean
    obtain ⟨head, read, tells⟩ := request_reads r clean rest
    rw [read]
    exact ⟨rfl, tells⟩
  · intro a b cleanA cleanB differ same
    obtain ⟨hosts, lines⟩ := bytes_tell a b cleanA cleanB same
    rcases differ with differ | differ
    · exact differ hosts
    · exact differ lines

-- A request with colons and blanks in its texts and a letter of two bytes.
def accented : Request := ⟨"GET it", "/a: b", "é: 1"⟩

theorem accented_clean : accented.Clean where
  verb := ⟨by decide, by decide⟩
  path := ⟨by decide, by decide⟩
  host := ⟨by decide, by decide⟩
  whole := by decide

theorem request_reads_back_accented :
    (let (head, left) := Head.read (accented.bytes.map .byte ++ [.byte 88])
    left = [.byte 88] ∧ Tells head accented) ∧
      accented.bytes ≠ { accented with host := "" }.bytes :=
  ⟨request_reads_back.1 accented [.byte 88] accented_clean,
    request_reads_back.2 accented { accented with host := "" } accented_clean
      { accented_clean with host := ⟨by decide, by decide⟩, whole := by decide }
      (.inl (by decide))⟩

end ProxyTunnel.Request
