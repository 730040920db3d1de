import VideoSurveillance.Library.CString

namespace VideoSurveillance.WebListener
open CString (strstr)

def text (s : String) : List UInt8 := s.toList.map Char.toUInt8

def outputWebJpeg (frameData : List UInt8) : List (List UInt8) :=
  [text "HTTP/1.1 200 OK\r\n",
    text "Content-Description: File Transfer\r\n",
    text "Content-Transfer-Encoding: binary\r\n",
    text "Content-Disposition: attachment; filename=\"image.jpg\"\r\n",
    text "Content-Type: image/jpeg\r\n\r\n",
    frameData]

def outputWebPage : List (List UInt8) :=
  [text "HTTP/1.1 200 OK\r\n",
    text "Content-Type: text/html; chartset =\r\n\r\n",
    text ("<!doctype html><html><body style='background-color:powderblue'><center>" ++
      "<img src='image.jpg'><p id='date'></p></img><a href='image.jpg'>Download image</a>" ++
      "</center><script>document.getElementById('date').innerHTML = " ++
      "'Snapshot taken at: ' + Date();</script></body></html>")]

def QUICK_MSG_SIZE : ℕ := 1024

def readQuickMsg (received : List UInt8) : List UInt8 :=
  let data := received.take (QUICK_MSG_SIZE - 1)
  data ++ List.replicate (QUICK_MSG_SIZE - data.length) 0

def readSocket (received frameData : List UInt8) : List (List UInt8) :=
  let quickMsg := readQuickMsg received
  let reqType := strstr quickMsg (text "GET")
  let reqPath := strstr quickMsg (text "image.jpg")
  if reqPath ≠ none ∧ reqType ≠ none then outputWebJpeg frameData else outputWebPage

def SP : UInt8 := 32
def CR : UInt8 := 13
def LF : UInt8 := 10

def Word (bs : List UInt8) : Prop := 0 ∉ bs ∧ SP ∉ bs ∧ CR ∉ bs ∧ LF ∉ bs

def Line (bs : List UInt8) : Prop := bs ≠ [] ∧ 0 ∉ bs ∧ CR ∉ bs ∧ LF ∉ bs

instance (bs : List UInt8) : Decidable (Word bs) := inferInstanceAs (Decidable (_ ∧ _ ∧ _ ∧ _))

instance (bs : List UInt8) : Decidable (Line bs) := inferInstanceAs (Decidable (_ ∧ _ ∧ _ ∧ _))

inductive Target where
  | origin (path : List UInt8) (query : Option (List UInt8))
  | absolute (scheme host path : List UInt8) (query : Option (List UInt8))
  | authority (host : List UInt8)
  | asterisk
  deriving DecidableEq

namespace Target

def queryBytes : Option (List UInt8) → List UInt8
  | none => []
  | some query => text "?" ++ query

def bytes : Target → List UInt8
  | .origin path query => path ++ queryBytes query
  | .absolute scheme host path query =>
    scheme ++ text "://" ++ host ++ path ++ queryBytes query
  | .authority host => host
  | .asterisk => text "*"

def path : Target → Option (List UInt8)
  | .origin path _ => some path
  | .absolute _ _ path _ => some path
  | .authority _ => none
  | .asterisk => none

def SLASH : UInt8 := 47
def COLON : UInt8 := 58
def QUESTION : UInt8 := 63

def Formed : Target → Prop
  | .origin path _ => path.head? = some SLASH ∧ QUESTION ∉ path
  | .absolute scheme host path _ =>
    (scheme ≠ [] ∧ COLON ∉ scheme ∧ SLASH ∉ scheme ∧ QUESTION ∉ scheme) ∧
    (SLASH ∉ host ∧ QUESTION ∉ host) ∧
    (path = [] ∨ path.head? = some SLASH) ∧ QUESTION ∉ path
  | .authority host => host ≠ [] ∧ SLASH ∉ host ∧ QUESTION ∉ host
  | .asterisk => True

def pathOf (target : List UInt8) : Option (List UInt8) :=
  let hierarchy := target.takeWhile (· ≠ QUESTION)
  if hierarchy.head? = some SLASH then some hierarchy
  else if SLASH ∈ hierarchy then
    some (((hierarchy.dropWhile (· ≠ SLASH)).drop 2).dropWhile (· ≠ SLASH))
  else none

theorem head_queryBytes (query : Option (List UInt8)) :
    queryBytes query = [] ∨ (queryBytes query).head? = some QUESTION := by
  cases query with
  | none => exact .inl rfl
  | some query =>
    have hquestion : text "?" = [QUESTION] := by decide
    rw [queryBytes,hquestion]
    exact .inr rfl

theorem takeWhile_question {hierarchy : List UInt8} (h : QUESTION ∉ hierarchy)
    (query : Option (List UInt8)) :
    (hierarchy ++ queryBytes query).takeWhile (· ≠ QUESTION) = hierarchy :=
  CString.takeWhile_until h (head_queryBytes query)

theorem head_ne_slash {as : List UInt8} (h : SLASH ∉ as) : as.head? ≠ some SLASH :=
  fun hhead => h (List.mem_of_mem_head? hhead)

theorem pathOf_bytes {target : Target} (h : target.Formed) : pathOf target.bytes = target.path := by
  cases target with
  | origin path query =>
    obtain ⟨hslash,hquestion⟩ := h
    rw [pathOf,bytes,takeWhile_question hquestion,if_pos hslash,Target.path]
  | absolute scheme host path query =>
    obtain ⟨⟨hne,-,hscheme,hschemeq⟩,⟨hhost,hhostq⟩,hpath,hpathq⟩ := h
    have hsep : text "://" = [COLON,SLASH,SLASH] := by decide
    have hquestion : QUESTION ∉ scheme ++ text "://" ++ host ++ path := by
      have hmark : QUESTION ∉ text "://" := by decide
      simp only [List.mem_append,not_or]
      exact ⟨⟨⟨hschemeq,hmark⟩,hhostq⟩,hpathq⟩
    have hhead : (scheme ++ text "://" ++ host ++ path).head? ≠ some SLASH := by
      rw [List.append_assoc,List.append_assoc,List.head?_append_of_ne_nil scheme hne]
      exact head_ne_slash hscheme
    have hsplit : scheme ++ text "://" ++ host ++ path =
        (scheme ++ [COLON]) ++ SLASH :: SLASH :: (host ++ path) := by
      rw [hsep]
      simp
    have hbefore : SLASH ∉ scheme ++ [COLON] := by
      have hcolon : SLASH ∉ [COLON] := by decide
      rw [List.mem_append,not_or]
      exact ⟨hscheme,hcolon⟩
    have hmem : SLASH ∈ scheme ++ text "://" ++ host ++ path := by
      rw [hsplit]
      exact List.mem_append_right _ List.mem_cons_self
    rw [pathOf,bytes,takeWhile_question hquestion,if_neg hhead,if_pos hmem,hsplit,
      CString.dropWhile_until hbefore (.inr rfl)]
    exact congrArg some (CString.dropWhile_until hhost hpath)
  | authority host =>
    obtain ⟨-,hslash,hquestion⟩ := h
    have hhost := takeWhile_question hquestion none
    rw [queryBytes,List.append_nil] at hhost
    rw [pathOf,bytes,hhost,if_neg (head_ne_slash hslash),if_neg hslash,Target.path]
  | asterisk => decide

end Target

structure RequestText where
  method : List UInt8
  target : Target
  minor : Fin 10
  lines : List (List UInt8)

namespace RequestText

def version (r : RequestText) : List UInt8 := text "HTTP/1." ++ [48 + UInt8.ofNat r.minor]

def headerBytes (r : RequestText) : List UInt8 := r.lines.flatMap (fun line => line ++ [CR,LF])

def bytes (r : RequestText) : List UInt8 :=
  r.method ++ SP :: (r.target.bytes ++ SP :: (r.version ++ CR :: LF :: (r.headerBytes ++ [CR,LF])))

def Mentions (r : RequestText) (words : List UInt8) : Prop :=
  words <:+: r.method ∨ words <:+: r.target.bytes ∨ ∃ line ∈ r.lines, words <:+: line

instance (r : RequestText) (words : List UInt8) : Decidable (r.Mentions words) :=
  inferInstanceAs (Decidable (_ ∨ _ ∨ _))

def ForImage (r : RequestText) : Prop :=
  r.method = text "GET" ∧ r.target.path = some (text "/image.jpg")

instance (r : RequestText) : Decidable r.ForImage := inferInstanceAs (Decidable (_ ∧ _))

end RequestText

structure Request extends RequestText where
  method_word : Word method
  method_ne : method ≠ []
  target_word : Word target.bytes
  target_formed : target.Formed
  header_lines : ∀ line ∈ lines, Line line
  fits : toRequestText.bytes.length ≤ QUICK_MSG_SIZE - 1

namespace Request

theorem infix_lines {words : List UInt8} (hne : words ≠ []) (hwords : Word words)
    (lines : List (List UInt8)) :
    words <:+: lines.flatMap (fun line => line ++ [CR,LF]) ++ [CR,LF] ↔
      ∃ line ∈ lines, words <:+: line := by
  obtain ⟨-,-,hcr,hlf⟩ := hwords
  have hcut : ∀ line rest, words <:+: line ++ CR :: LF :: rest ↔
      words <:+: line ∨ words <:+: rest := by
    intro line rest
    rw [CString.infix_cut hcr,CString.infix_cut_head hne hlf]
  induction lines with
  | nil =>
    have hempty := hcut [] []
    rw [List.infix_nil,or_self] at hempty
    exact iff_of_false (fun h => hne (hempty.mp h)) (by simp)
  | cons line lines ih =>
    rw [List.flatMap_cons,List.append_assoc,List.append_assoc]
    refine (hcut line _).trans ((or_congr_right ih).trans ?_)
    rw [List.exists_mem_cons_iff]

theorem infix_bytes (r : RequestText) {words : List UInt8} (hne : words ≠ [])
    (hwords : Word words) (hversion : ¬ words <:+: r.version) :
    words <:+: r.bytes ↔ r.Mentions words := by
  have hlines := infix_lines hne hwords r.lines
  obtain ⟨-,hsp,hcr,hlf⟩ := hwords
  rw [RequestText.bytes,CString.infix_cut hsp,CString.infix_cut hsp,CString.infix_cut hcr,
    CString.infix_cut_head hne hlf,or_iff_right hversion]
  exact or_congr_right (or_congr_right hlines)

theorem bytes_terminated (r : Request) : 0 ∉ r.bytes := by
  have hversion : ∀ minor : Fin 10, 0 ∉ text "HTTP/1." ++ [48 + UInt8.ofNat minor] := by decide
  have hlines : 0 ∉ r.headerBytes := by
    intro h
    obtain ⟨line,hline,hmem⟩ := List.mem_flatMap.mp h
    rcases List.mem_append.mp hmem with hmem | hmem
    · exact (r.header_lines line hline).2.1 hmem
    · exact absurd hmem (by decide)
  intro h
  simp only [RequestText.bytes,List.mem_append,List.mem_cons,List.not_mem_nil,or_false] at h
  rcases h with h | h | h | h | h | h | h | h | h | h
  · exact r.method_word.1 h
  · cases h
  · exact r.target_word.1 h
  · cases h
  · exact hversion r.minor h
  · cases h
  · cases h
  · exact hlines h
  · cases h
  · cases h

theorem readQuickMsg_bytes (r : Request) : ∃ rest, readQuickMsg r.bytes = r.bytes ++ 0 :: rest := by
  have hfits := r.fits
  obtain ⟨n,hn⟩ : ∃ n, QUICK_MSG_SIZE - r.bytes.length = n + 1 :=
    ⟨QUICK_MSG_SIZE - r.bytes.length - 1,by rw [QUICK_MSG_SIZE] at *; omega⟩
  refine ⟨List.replicate n 0,?_⟩
  rw [readQuickMsg,List.take_of_length_le hfits,hn,List.replicate_succ]

theorem strstr_mentions (r : Request) {words : List UInt8} (hne : words ≠ [])
    (hwords : Word words) (hversion : ¬ words <:+: r.version) :
    strstr (readQuickMsg r.bytes) words ≠ none ↔ r.Mentions words := by
  obtain ⟨rest,hrest⟩ := r.readQuickMsg_bytes
  rw [hrest,CString.strstr_found r.bytes_terminated,infix_bytes _ hne hwords hversion]

theorem mentions_get (r : Request) :
    strstr (readQuickMsg r.bytes) (text "GET") ≠ none ↔ r.Mentions (text "GET") := by
  have hversion : ∀ minor : Fin 10,
      ¬ text "GET" <:+: text "HTTP/1." ++ [48 + UInt8.ofNat minor] := by decide
  exact r.strstr_mentions (by decide) (by decide) (hversion r.minor)

theorem mentions_image (r : Request) :
    strstr (readQuickMsg r.bytes) (text "image.jpg") ≠ none ↔ r.Mentions (text "image.jpg") := by
  have hversion : ∀ minor : Fin 10,
      ¬ text "image.jpg" <:+: text "HTTP/1." ++ [48 + UInt8.ofNat minor] := by decide
  exact r.strstr_mentions (by decide) (by decide) (hversion r.minor)

theorem readSocket_bytes (r : Request) (frameData : List UInt8) :
    readSocket r.bytes frameData =
      if r.Mentions (text "GET") ∧ r.Mentions (text "image.jpg") then outputWebJpeg frameData
      else outputWebPage := by
  rw [readSocket]
  apply if_congr _ rfl rfl
  rw [mentions_get,mentions_image,and_comm]

theorem image_infix_bytes {target : Target} (h : target.path = some (text "/image.jpg")) :
    text "image.jpg" <:+: target.bytes := by
  have hpath : text "image.jpg" <:+: text "/image.jpg" := (List.suffix_cons _ _).isInfix
  cases target with
  | origin path query =>
    cases h
    exact hpath.trans (List.prefix_append _ _).isInfix
  | absolute scheme host path query =>
    cases h
    exact hpath.trans ((List.suffix_append _ _).isInfix.trans (List.prefix_append _ _).isInfix)
  | authority host => cases h
  | asterisk => cases h

theorem mentions_forImage {r : RequestText} (h : r.ForImage) :
    r.Mentions (text "GET") ∧ r.Mentions (text "image.jpg") := by
  obtain ⟨hmethod,hpath⟩ := h
  constructor
  · exact .inl (hmethod ▸ List.infix_rfl)
  · exact .inr (.inl (image_infix_bytes hpath))

theorem forImage_of_bytes {r r' : Request} (h : r.bytes = r'.bytes) : r.ForImage ↔ r'.ForImage := by
  obtain ⟨hmethod,hrest⟩ := CString.cut_injective r.method_word.2.1 r'.method_word.2.1 h
  obtain ⟨htarget,-⟩ := CString.cut_injective r.target_word.2.1 r'.target_word.2.1 hrest
  rw [RequestText.ForImage,RequestText.ForImage,hmethod,← Target.pathOf_bytes r.target_formed,
    ← Target.pathOf_bytes r'.target_formed,htarget]

theorem jpeg_ne_page (frameData : List UInt8) : outputWebJpeg frameData ≠ outputWebPage :=
  fun h => absurd (congrArg List.length h) (show 6 ≠ 3 by decide)

def AnswersRight (r : Request) (frameData : List UInt8) : Prop :=
  (readSocket r.bytes frameData = outputWebJpeg frameData ↔ r.ForImage) ∧
  (readSocket r.bytes frameData = outputWebPage ↔ ¬ r.ForImage)

theorem web_dispatch_right_iff (r : Request) (frameData : List UInt8) :
    r.AnswersRight frameData ↔
      r.ForImage ∨ ¬ r.Mentions (text "GET") ∨ ¬ r.Mentions (text "image.jpg") := by
  have hanswer := r.readSocket_bytes frameData
  rw [← not_and_or]
  by_cases hmentions : r.Mentions (text "GET") ∧ r.Mentions (text "image.jpg")
  · rw [if_pos hmentions] at hanswer
    rw [AnswersRight,hanswer]
    constructor
    · rintro ⟨himage,-⟩
      exact .inl (himage.mp rfl)
    · intro h
      have himage : r.ForImage := h.resolve_right (not_not_intro hmentions)
      exact ⟨iff_of_true rfl himage,
        iff_of_false (jpeg_ne_page frameData) (not_not_intro himage)⟩
  · rw [if_neg hmentions] at hanswer
    rw [AnswersRight,hanswer]
    refine iff_of_true ?_ (.inr hmentions)
    have himage : ¬ r.ForImage := mt mentions_forImage hmentions
    exact ⟨iff_of_false (jpeg_ne_page frameData).symm himage,iff_of_true rfl himage⟩

def refererRequest : Request where
  method := text "GET"
  target := .origin (text "/favicon.ico") none
  minor := 1
  lines := [text "Host: cam",text "Referer: http://cam/image.jpg"]
  method_word := by decide
  method_ne := by decide
  target_word := by decide
  target_formed := ⟨by decide,by decide⟩
  header_lines := by decide
  fits := by decide

theorem favicon_answered_with_jpeg :
    ¬ ∀ (r : Request) (frameData : List UInt8), r.AnswersRight frameData := by
  intro h
  obtain ⟨hjpeg,-⟩ := h refererRequest []
  have hread : readSocket refererRequest.bytes [] = outputWebJpeg [] := by decide
  exact absurd (hjpeg.mp hread) (by decide)

end Request

end VideoSurveillance.WebListener
