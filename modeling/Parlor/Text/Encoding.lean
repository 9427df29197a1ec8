namespace Parlor.Text

def decode? (bytes : List UInt8) : Option String := String.fromUTF8? ⟨bytes.toArray⟩

def encode (text : String) : List UInt8 := text.toUTF8.toList

end Parlor.Text
