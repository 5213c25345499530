import StreamCatalog.Hash.SipHash

namespace StreamCatalog

/-- SipHash with one round for each word and three at the end, under the key zero. It takes the
    UTF-8 bytes of the text and a final byte that no text contains. -/
def textHash (text : String) : UInt64 :=
  SipHash.hash 1 3 0 0 (text.toUTF8.data.toList ++ [0xff])

end StreamCatalog
