import TokenIndexer.Proofs.Json.Token
import TokenIndexer.Proofs.Tx.Binary
import TokenIndexer.Tx.Decoder

/-!
Which form a transaction is taken for. A binary transaction starts with a line feed, which is passed over as
white space before a JSON document, so the length of its first message is what tells the forms apart.
-/

namespace TokenIndexer

namespace Tx

open Proto

theorem looksLikeJson_length (n : Nat) (rest : Bytes) :
    looksLikeJson (0x0a :: (Varint.write n ++ 0x0a :: 0x0c :: 0x2f :: rest)) = decide (n = 123) := by
  have brace (b : UInt8) (seen : isAsciiBlank b = false) (tail : Bytes) :
      looksLikeJson (0x0a :: b :: tail) = (b == 0x7b) := by
    simp [looksLikeJson, seen, show isAsciiBlank 0x0a = true from rfl]
  by_cases low : n < 128
  · -- A length of one byte may be white space itself: then the type url decides, which starts with a slash.
    rw [Varint.write_of_lt low]
    have table : ∀ k : Fin 128, (isAsciiBlank (UInt8.ofNat k) = true → k.val ≠ 123) ∧
        (UInt8.ofNat k == 0x7b) = decide (k.val = 123) := by decide
    obtain ⟨differs, same⟩ := table ⟨n, low⟩
    cases blank : isAsciiBlank (UInt8.ofNat n) with
    | true =>
      rw [decide_eq_false (differs blank)]
      simp [looksLikeJson, blank, show isAsciiBlank 0x0a = true from rfl,
        show isAsciiBlank 0x0c = true from rfl, show isAsciiBlank 0x2f = false from rfl]
    | false =>
      rw [List.singleton_append, brace _ blank]
      exact same
  · -- A longer one starts with a byte that is neither white space nor a brace.
    have table : ∀ k : Fin 128, isAsciiBlank (UInt8.ofNat (k + 128)) = false ∧
        (UInt8.ofNat (k + 128) == 0x7b) = false := by decide
    obtain ⟨seen, differs⟩ := table ⟨n % 128, Nat.mod_lt _ (by decide)⟩
    rw [Varint.write, if_neg low, List.cons_append, brace _ seen, differs, decide_eq_false (by omega)]

/-- A form feed is white space for the decoder that tells the forms apart, not for a reader of JSON. -/
theorem Amino.messages?_formFeed (rest : Bytes) :
    Amino.messages? (0x0a :: 0x7b :: 0x0a :: 0x0c :: rest) = .error .jsonTx := by
  have brace : Json.Token.next? 0x7b (0x0a :: 0x0c :: rest) =
      some (.openObject, 0x0a :: 0x0c :: rest) := rfl
  have feed : Json.Token.next? 0x0c rest = none := by
    simp only [Json.Token.next?, Json.Token.isDigitByte]
    split <;> simp_all
  have unread : Json.Token.ofBytes? (0x0a :: 0x7b :: 0x0a :: 0x0c :: rest) = none := by
    rw [Json.Token.ofBytes?, Json.Token.ofBytesFrom_blank rfl, Json.Token.ofBytesFrom_token rfl brace,
      Json.Token.ofBytesFrom_blank rfl, Json.Token.ofBytesFrom_stuck rfl feed]
  simp [Amino.messages?, Amino.values?, Json.parse?, unread]

namespace Binary

theorem bytes_addPackageTx (creator : Bytes) (package : MemPackage) :
    ∃ rest, (addPackageTx creator package).bytes =
      0x0a :: (Varint.write (rest.length + 3) ++ 0x0a :: 0x0c :: 0x2f :: rest) := by
  obtain ⟨letters, url, count⟩ : ∃ letters, Utf8.encode Message.addPackageUrl = 0x2f :: letters ∧
      letters.length = 11 := ⟨_, rfl, rfl⟩
  let payload := bytesFieldUnlessEmpty 2 (Deploy.toBytes ⟨creator, some package, []⟩)
  have wrapper : (⟨Message.addPackageUrl, Deploy.toBytes ⟨creator, some package, []⟩⟩ : Any).toBytes =
      0x0a :: 0x0c :: 0x2f :: (letters ++ payload) := by
    simp [Any.toBytes, bytesFieldUnlessEmpty, url, bytesField, count, Varint.write_of_lt, payload]
  refine ⟨letters ++ payload, ?_⟩
  simp [addPackageTx, ofAnys, bytesField, wrapper, Varint.write_of_lt]

end Binary

/-- A deployment is read back by the decoder of either form, unless its bytes are 125: then its message
has 123, the transaction is taken for a JSON document, and it is refused. -/
theorem Decoder.messages?_deployment (creator : Bytes) (package : MemPackage)
    (short : Short (Binary.addPackageTx creator package).bytes) :
    Decoder.amino.messages? (Binary.addPackageTx creator package) =
      if (Binary.addPackageTx creator package).bytes.length = 125 then .error (.decode .jsonTx)
      else .ok [.addPackage (Hex.text creator) package ""] := by
  obtain ⟨rest, shape⟩ := Binary.bytes_addPackageTx creator package
  have form := looksLikeJson_length (rest.length + 3) rest
  rw [← shape] at form
  by_cases brace : rest.length + 3 = 123
  · have written : (Binary.addPackageTx creator package).bytes =
        0x0a :: 0x7b :: 0x0a :: 0x0c :: 0x2f :: rest := by
      rw [shape, brace, Varint.write_of_lt (by decide)]
      rfl
    have whole : (Binary.addPackageTx creator package).bytes.length = 125 := by
      rw [written]
      simp only [List.length_cons]
      omega
    rw [if_pos whole, Decoder.messages?]
    simp only [form, brace, decide_true, if_true]
    rw [written, Amino.messages?_formFeed]
    rfl
  · have whole : (Binary.addPackageTx creator package).bytes.length ≠ 125 := by
      rw [shape]
      simp only [List.length_cons, List.length_append]
      by_cases low : rest.length + 3 < 128
      · rw [Varint.write_of_lt low, List.length_singleton]
        omega
      · omega
    rw [if_neg whole, Decoder.messages?]
    simp only [form, brace, decide_false, Bool.false_eq_true, if_false]
    rw [Binary.messages?_addPackageTx short]
    rfl

/-- Twenty bytes of address and one short file are enough. -/
theorem Decoder.messages?_deployment_refused :
    Short (Binary.addPackageTx (List.replicate 20 0xab)
      ⟨"n", "ppp", [⟨"f", String.ofList (List.replicate 68 'x')⟩]⟩).bytes ∧
    Decoder.amino.messages? (Binary.addPackageTx (List.replicate 20 0xab)
      ⟨"n", "ppp", [⟨"f", String.ofList (List.replicate 68 'x')⟩]⟩) = .error (.decode .jsonTx) := by
  have whole : (Binary.addPackageTx (List.replicate 20 0xab)
      ⟨"n", "ppp", [⟨"f", String.ofList (List.replicate 68 'x')⟩]⟩).bytes.length = 125 := by
    decide +kernel
  have short : Short (Binary.addPackageTx (List.replicate 20 0xab)
      ⟨"n", "ppp", [⟨"f", String.ofList (List.replicate 68 'x')⟩]⟩).bytes := by
    rw [Short, whole]
    decide
  refine ⟨short, ?_⟩
  rw [Decoder.messages?_deployment _ _ short, if_pos whole]

end Tx

end TokenIndexer
