import VideoSurveillance.Library.Head
import VideoSurveillance.Server.WebListener

namespace VideoSurveillance.WebServer
open CString (strstr)
open WebListener (CR LF text readQuickMsg outputWebJpeg outputWebPage QUICK_MSG_SIZE)

structure Connection where
  received : List UInt8
  frameData : List UInt8
  deriving DecidableEq

def reqStop (received : List UInt8) : Option ℕ := strstr (readQuickMsg received) (text "STOP")

def readSocket (c : Connection) (webRunning : Bool) : Bool × List (List UInt8) :=
  let webRunning := if reqStop c.received ≠ none then false else webRunning
  (webRunning,WebListener.readSocket c.received c.frameData)

def webCallback : Bool → List Connection → List (List (List UInt8))
  | _, [] => []
  | webRunning, c :: rest =>
    if webRunning then
      let (webRunning,writes) := readSocket c webRunning
      writes :: webCallback webRunning rest
    else []

structure Response where
  statusLine : List UInt8
  fields : List (List UInt8 × List UInt8)
  body : List UInt8
  deriving DecidableEq

def COLON : UInt8 := 58

-- "name: value"
def readField (line : List UInt8) : List UInt8 × List UInt8 :=
  (line.takeWhile (· ≠ COLON),(line.dropWhile (· ≠ COLON)).drop 2)

-- no Content-Length is sent: the body ends where the server closes the socket
def readResponse (sent : List UInt8) : Option Response :=
  (Head.read CR LF sent).bind (fun p => match p.1 with
    | [] => none
    | statusLine :: lines => some ⟨statusLine,lines.map readField,p.2⟩)

def jpegResponse (frameData : List UInt8) : Response where
  statusLine := text "HTTP/1.1 200 OK"
  fields := [(text "Content-Description",text "File Transfer"),
    (text "Content-Transfer-Encoding",text "binary"),
    (text "Content-Disposition",text "attachment; filename=\"image.jpg\""),
    (text "Content-Type",text "image/jpeg")]
  body := frameData

def page : List UInt8 :=
  text ("<!doctype html><html><body style='background-color:powderblue'><center>" ++
    "<img src='image.jpg'><p id='date'></p></img><a href='image.jpg'>Download image</a>" ++
    "</center><script>document.getElementById('date').innerHTML = " ++
    "'Snapshot taken at: ' + Date();</script></body></html>")

def pageResponse : Response where
  statusLine := text "HTTP/1.1 200 OK"
  fields := [(text "Content-Type",text "text/html; chartset =")]
  body := page

theorem readResponse_bytes {statusLine body : List UInt8} {lines : List (List UInt8)}
    {fields : List (List UInt8 × List UInt8)}
    (h : ∀ line ∈ statusLine :: lines, line ≠ [] ∧ CR ∉ line)
    (hfields : lines.map readField = fields) :
    readResponse (Head.bytes CR LF (statusLine :: lines) body) =
      some ⟨statusLine,fields,body⟩ := by
  rw [readResponse,Head.read_bytes h,← hfields]
  rfl

def jpegLines : List (List UInt8) :=
  [text "Content-Description: File Transfer",text "Content-Transfer-Encoding: binary",
    text "Content-Disposition: attachment; filename=\"image.jpg\"",text "Content-Type: image/jpeg"]

theorem readResponse_jpeg (frameData : List UInt8) :
    readResponse (outputWebJpeg frameData).flatten = some (jpegResponse frameData) := by
  have hhead : (outputWebJpeg []).flatten =
      Head.bytes CR LF (text "HTTP/1.1 200 OK" :: jpegLines) [] := by decide +kernel
  have hbody : (outputWebJpeg frameData).flatten = (outputWebJpeg []).flatten ++ frameData := by
    simp [outputWebJpeg]
  rw [hbody,hhead,← Head.bytes_append,List.nil_append]
  exact readResponse_bytes (by decide +kernel) (by decide +kernel)

def pageLines : List (List UInt8) := [text "Content-Type: text/html; chartset ="]

theorem readResponse_page : readResponse outputWebPage.flatten = some pageResponse := by
  have hhead : (outputWebPage.take 2).flatten =
      Head.bytes CR LF (text "HTTP/1.1 200 OK" :: pageLines) [] := by decide +kernel
  have hbody : outputWebPage.flatten = (outputWebPage.take 2).flatten ++ page := by
    simp [outputWebPage,page]
  rw [hbody,hhead,← Head.bytes_append,List.nil_append,pageResponse]
  exact readResponse_bytes (by decide +kernel) (by decide +kernel)

-- what strstr() sees of the bytes one read() delivered
def seen (received : List UInt8) : List UInt8 :=
  (received.take (QUICK_MSG_SIZE - 1)).takeWhile (· ≠ 0)

theorem contents_readQuickMsg (received : List UInt8) :
    CString.contents (readQuickMsg received) = seen received := by
  obtain ⟨n,hn⟩ : ∃ n, QUICK_MSG_SIZE - (received.take (QUICK_MSG_SIZE - 1)).length = n + 1 := by
    have hle := List.length_take_le (QUICK_MSG_SIZE - 1) received
    rw [QUICK_MSG_SIZE] at *
    exact ⟨1024 - (received.take (1024 - 1)).length - 1,by omega⟩
  simp only [readQuickMsg]
  rw [hn,List.replicate_succ,CString.contents,seen,List.takeWhile_append]
  split_ifs with hall
  · have htake := (List.takeWhile_prefix (· ≠ 0)
      (l := received.take (QUICK_MSG_SIZE - 1))).eq_of_length hall
    rw [htake,List.takeWhile_cons_of_neg (by decide),List.append_nil]
  · rfl

theorem strstr_seen (received words : List UInt8) :
    strstr (readQuickMsg received) words ≠ none ↔ words <:+: seen received := by
  rw [strstr,contents_readQuickMsg,← Option.isSome_iff_ne_none,CString.search_isSome]

def Stops (c : Connection) : Prop := text "STOP" <:+: seen c.received

def ForImage (c : Connection) : Prop :=
  text "GET" <:+: seen c.received ∧ text "image.jpg" <:+: seen c.received

instance (c : Connection) : Decidable (Stops c) := inferInstanceAs (Decidable (_ <:+: _))

instance (c : Connection) : Decidable (ForImage c) := inferInstanceAs (Decidable (_ ∧ _))

def answer (c : Connection) : Response :=
  if ForImage c then jpegResponse c.frameData else pageResponse

theorem readResponse_readSocket (c : Connection) :
    readResponse (WebListener.readSocket c.received c.frameData).flatten = some (answer c) := by
  have himage := strstr_seen c.received (text "image.jpg")
  have hget := strstr_seen c.received (text "GET")
  have hwrites : WebListener.readSocket c.received c.frameData =
      if ForImage c then outputWebJpeg c.frameData else outputWebPage := by
    rw [WebListener.readSocket]
    apply if_congr _ rfl rfl
    rw [himage,hget,ForImage,and_comm]
  rw [hwrites,answer]
  split_ifs
  · exact readResponse_jpeg c.frameData
  · exact readResponse_page

def served : List Connection → List Connection
  | [] => []
  | c :: rest => if Stops c then [c] else c :: served rest

theorem webCallback_served (connections : List Connection) :
    webCallback true connections =
      (served connections).map (fun c => WebListener.readSocket c.received c.frameData) := by
  have hstopped : ∀ connections, webCallback false connections = [] := by
    intro connections
    cases connections <;> rfl
  induction connections with
  | nil => rfl
  | cons c rest ih =>
    have hstop : reqStop c.received ≠ none ↔ Stops c := strstr_seen c.received (text "STOP")
    simp only [webCallback,readSocket,served,if_true,hstop]
    split_ifs
    · rw [hstopped,List.map_singleton]
    · rw [ih,List.map_cons]

theorem served_first (connections : List Connection) : served connections <+: connections := by
  induction connections with
  | nil => exact List.prefix_refl _
  | cons c rest ih =>
    rw [served]
    split_ifs
    · exact List.cons_prefix_cons.mpr ⟨rfl,List.nil_prefix⟩
    · exact List.cons_prefix_cons.mpr ⟨rfl,ih⟩

theorem served_running (connections : List Connection) :
    ∀ c ∈ (served connections).dropLast, ¬ Stops c := by
  induction connections with
  | nil => nofun
  | cons c rest ih =>
    rw [served]
    split_ifs with hstop
    · nofun
    · cases hserved : served rest with
      | nil => nofun
      | cons d ds =>
        rw [List.dropLast_cons_of_ne_nil (List.cons_ne_nil d ds),← hserved]
        exact List.forall_mem_cons.mpr ⟨hstop,ih⟩

theorem served_stopped (connections : List Connection) (h : served connections ≠ connections) :
    ∃ c, (served connections).getLast? = some c ∧ Stops c := by
  induction connections with
  | nil => exact absurd rfl h
  | cons c rest ih =>
    rw [served] at h ⊢
    split_ifs at h ⊢ with hstop
    · exact ⟨c,rfl,hstop⟩
    · obtain ⟨d,hd,hstops⟩ := ih (fun hall => h (by rw [hall]))
      refine ⟨d,?_,hstops⟩
      rw [List.getLast?_cons,hd]
      rfl

end VideoSurveillance.WebServer
