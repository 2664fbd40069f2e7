import CraftIP.Cursor.Put
import CraftIP.Minecraft

/-!
# The responses to a hello packet (`protocol/src/minecraft.rs`)

`MinecraftHelloPacket.generateResponse`: what a Minecraft client is told when the server it asks for is not
online. A status response and a disconnect response are JSON texts in a frame, and a client reads the text
back, whatever it is (`string_codec`).
-/

namespace CraftIP
open ByteBuf Unicode Incremental Cursor

def ERROR_MSG_FIRST_LINE : String := "Server not online!"
def ERROR_MSG_LONG : String := "Ask your friend to start CraftIP!"

namespace Response

structure Version where
  name : String
  protocol : Int32

structure MinecraftText where
  text : String
  color : Option String
  bold : Bool

structure Sample where
  name : String
  id : String

structure Players where
  max : Int32
  online : Int32
  sample : List Sample

structure ServerListPingResponse where
  version : Version
  description : MinecraftText
  players : Players
  favicon : Option String

/-- The crate `serde_json`: `to_string` where it is called. -/
structure SerdeJson where
  pingResponse : ServerListPingResponse → String
  text : MinecraftText → String

/-- The texts that `to_string` makes of the two responses. -/
def sampleJson : SerdeJson where
  pingResponse _ :=
    "\x7b\"version\":\x7b\"name\":\"Server not online!\",\"protocol\":0\x7d," ++
    "\"description\":\x7b\"text\":\"Ask your friend to start CraftIP!\",\"color\":\"red\",\"bold\":false\x7d," ++
    "\"players\":\x7b\"max\":0,\"online\":0,\"sample\":[]\x7d\x7d"
  text _ :=
    "\x7b\"text\":\"Server not online!\\nAsk your friend to start CraftIP!\",\"color\":\"red\",\"bold\":false\x7d"

end Response

open Response

/-- The content behind its length, which is cast to 32 bits unchecked. -/
def MinecraftDataPacket.fromPacketWithoutLen (content : List UInt8) : MinecraftDataPacket :=
  ⟨putVarint (Int32.ofNat content.length) [] ++ content⟩

namespace MinecraftHelloPacket
variable (J : SerdeJson)

/-- The JSON text of the status response. -/
def pingJson : String :=
  J.pingResponse {
    version := ⟨ERROR_MSG_FIRST_LINE, 0⟩
    description := ⟨"Ask your friend to start CraftIP!", some "red", false⟩
    players := ⟨0, 0, []⟩
    favicon := none }

/-- The JSON text of the disconnect response. -/
def connectJson : String :=
  J.text ⟨ERROR_MSG_FIRST_LINE ++ "\n" ++ ERROR_MSG_LONG, some "red", false⟩

def generateResponsePing : MinecraftDataPacket :=
  .fromPacketWithoutLen (putUtf8String (pingJson J) (putVarint 0 []))

def generateResponseConnect : MinecraftDataPacket :=
  .fromPacketWithoutLen (putUtf8String (connectJson J) (putVarint 0 []))

/-- The kick packet of the old protocol. Its length counts the UTF-8 bytes. -/
def generateResponseLegacy : MinecraftDataPacket :=
  let respString := "§1\x00" ++ "127" ++ "\x00" ++ ERROR_MSG_FIRST_LINE ++ "\x00" ++ ERROR_MSG_LONG ++ "\x00" ++
    "0" ++ "\x00" ++ "0"
  ⟨0xff :: (be16 (UInt16.ofNat (utf8 respString).length - 1) ++ (utf16 respString.toList).flatMap be16)⟩

def generateResponse (p : MinecraftHelloPacket) : MinecraftDataPacket :=
  match p.pkgType with
  | .ping => generateResponsePing J
  | .connect => generateResponseConnect J
  | .legacy => generateResponseLegacy
  | .unknown => ⟨[]⟩

end MinecraftHelloPacket

/-! ### Frames with a text -/

/-- A reader finds the number of the bytes behind it, then the id 0, then the text, and nothing more. -/
def FramedText (f : List UInt8) (t : String) : Prop :=
  ∃ length c d e, Parser.getVarint (Cursor.new f) = .ok (some (length, c)) ∧ length.toInt = c.rest.length ∧
    Parser.getVarint c = .ok (some (0, d)) ∧ Parser.getUtf8String d = .ok (some (t, e)) ∧ e.rest = []

namespace Parser
open Incremental.Parser MinecraftHelloPacket

theorem length_content {t : String} (ht : (utf8 t).length < 2147483648 - 6) :
    (putUtf8String t (putVarint 0 [])).length < 2147483648 := by
  have hsize := (varint_varint (Int32.ofNat (utf8 t).length)).length_le
  have hid : (varint 0).length = 1 := by decide
  rw [putUtf8String_eq, List.length_append, List.length_append]
  have hvarint : (putVarint 0 []).length = 1 := hid
  omega

theorem framedText_fromPacketWithoutLen {t : String} (ht : (utf8 t).length < 2147483648 - 6) :
    FramedText (MinecraftDataPacket.fromPacketWithoutLen (putUtf8String t (putVarint 0 []))).bytes t := by
  have hlen := length_content ht
  have hstring := utf8String_varint (t := t) (by omega)
  have hsize := hstring.varint.length_le
  have hone : (varint 0).length = 1 := by decide
  generalize hcontent : putUtf8String t (putVarint 0 []) = content at hlen
  have hprefix := (varint_varint (Int32.ofNat content.length)).length_le
  have hread := getVarint_append (varint_varint (Int32.ofNat content.length)) 0 content
  have hid := getVarint_append (varint_varint 0) (0 + (varint (Int32.ofNat content.length)).length)
    (varint (Int32.ofNat (utf8 t).length) ++ utf8 t)
  have htext := getUtf8String_append hstring
    (0 + (varint (Int32.ofNat content.length)).length + (varint 0).length) [] (by simp only [USIZE_MAX]; omega)
  rw [List.append_nil] at htext
  rw [putUtf8String_eq] at hcontent
  exact ⟨_, _, _, _, hread, toInt_ofNat hlen, hcontent ▸ hid, htext, rfl⟩

theorem framedText_generateResponse (J : SerdeJson) {p : MinecraftHelloPacket} {t : String}
    (ht : (utf8 t).length < 2147483648 - 6)
    (hp : p.pkgType = .ping ∧ pingJson J = t ∨ p.pkgType = .connect ∧ connectJson J = t) :
    FramedText (p.generateResponse J).bytes t := by
  have hframe := framedText_fromPacketWithoutLen ht
  rw [generateResponse]
  rcases hp with ⟨hping, rfl⟩ | ⟨hconnect, rfl⟩
  · rw [hping]
    exact hframe
  · rw [hconnect]
    exact hframe

/-- Writer and reader of strings, for a text whose frame's length fits 31 bits. The text is read back whatever
follows, and no smaller part is enough; in a frame behind the id 0 it is read back to the frame's end, and so is
the JSON text of every status and disconnect response. -/
theorem string_codec {t : String} (ht : (utf8 t).length < 2147483648 - 6) :
    (∀ s, getUtf8String (Cursor.new (putUtf8String t [] ++ s)) =
      .ok (some (t, ⟨(putUtf8String t []).length, s⟩))) ∧
    (∀ q, q <+: putUtf8String t [] → q ≠ putUtf8String t [] → getUtf8String (Cursor.new q) = .ok none) ∧
    FramedText (MinecraftDataPacket.fromPacketWithoutLen (putUtf8String t (putVarint 0 []))).bytes t ∧
    ∀ (J : SerdeJson) (p : MinecraftHelloPacket),
      (p.pkgType = .ping ∧ pingJson J = t ∨ p.pkgType = .connect ∧ connectJson J = t) →
      FramedText (p.generateResponse J).bytes t := by
  have hstring := utf8String_varint (t := t) (by omega)
  have hsize := hstring.varint.length_le
  have hput : putUtf8String t [] = varint (Int32.ofNat (utf8 t).length) ++ utf8 t := putUtf8String_eq t []
  refine ⟨fun s => ?_, fun q hq hne => ?_, framedText_fromPacketWithoutLen ht,
    fun J p => framedText_generateResponse J ht⟩
  · have hget := getUtf8String_append hstring 0 s (by simp only [USIZE_MAX]; omega)
    rw [hput, List.append_assoc, List.length_append, Cursor.new, hget, Nat.zero_add]
  · rw [hput] at hq hne
    exact getUtf8String_part hstring hq hne 0

/-- A text of two bytes, with one byte behind it. -/
theorem string_codec_hi :
    getUtf8String (Cursor.new [2, 104, 105, 7]) = .ok (some ("hi", ⟨3, [7]⟩)) ∧
      getUtf8String (Cursor.new [2, 104]) = .ok none ∧ FramedText [4, 0, 2, 104, 105] "hi" := by
  have hput : putUtf8String "hi" [] = [2, 104, 105] := by decide
  have hframe : MinecraftDataPacket.fromPacketWithoutLen (putUtf8String "hi" (putVarint 0 [])) =
      ⟨[4, 0, 2, 104, 105]⟩ := by decide
  have h := @string_codec "hi" (by decide)
  rw [hput, hframe] at h
  exact ⟨h.1 [7], h.2.1 [2, 104] (by decide) (by decide), h.2.2.1⟩

end Parser
end CraftIP
