/-!
# Simple lowercase mappings

The characters that have another lowercase form of one character: `a=b` maps `a` to `b`,
`a*n=b` maps `a+i` to `b+i` for the first `n` values of `i`, and `a*n/s=b` maps `a+s*i` to `b+s*i`.
The only character with a longer lowercase form, U+0130, is handled where the mapping is applied.
-/

namespace Autoplay.Text.Table

/-- Lowercase mappings, by increasing code point. -/
def lowercase : String :=
  "41*26=61 C0*23=E0 D8*7=F8 100*24/2=101 132*3/2=133 139*8/2=13A 14A*23/2=14B 178=FF 179*3/2=17A
    181=253 182*2/2=183 186=254 187=188 189*2=256 18B=18C 18E=1DD 18F=259 190=25B 191=192 193=260
    194=263 196=269 197=268 198=199 19C=26F 19D=272 19F=275 1A0*3/2=1A1 1A6=280 1A7=1A8 1A9=283
    1AC=1AD 1AE=288 1AF=1B0 1B1*2=28A 1B3*2/2=1B4 1B7=292 1B8=1B9 1BC=1BD 1C4=1C6 1C5=1C6 1C7=1C9
    1C8=1C9 1CA=1CC 1CB*9/2=1CC 1DE*9/2=1DF 1F1=1F3 1F2*2/2=1F3 1F6=195 1F7=1BF 1F8*20/2=1F9
    220=19E 222*9/2=223 23A=2C65 23B=23C 23D=19A 23E=2C66 241=242 243=180 244=289 245=28C
    246*5/2=247 370*2/2=371 376=377 37F=3F3 386=3AC 388*3=3AD 38C=3CC 38E*2=3CD 391*17=3B1
    3A3*9=3C3 3CF=3D7 3D8*12/2=3D9 3F4=3B8 3F7=3F8 3F9=3F2 3FA=3FB 3FD*3=37B 400*16=450 410*32=430
    460*17/2=461 48A*27/2=48B 4C0=4CF 4C1*7/2=4C2 4D0*48/2=4D1 531*38=561 10A0*38=2D00 10C7=2D27
    10CD=2D2D 13A0*80=AB70 13F0*6=13F8 1C89=1C8A 1C90*43=10D0 1CBD*3=10FD 1E00*75/2=1E01 1E9E=DF
    1EA0*48/2=1EA1 1F08*8=1F00 1F18*6=1F10 1F28*8=1F20 1F38*8=1F30 1F48*6=1F40 1F59*4/2=1F51
    1F68*8=1F60 1F88*8=1F80 1F98*8=1F90 1FA8*8=1FA0 1FB8*2=1FB0 1FBA*2=1F70 1FBC=1FB3 1FC8*4=1F72
    1FCC=1FC3 1FD8*2=1FD0 1FDA*2=1F76 1FE8*2=1FE0 1FEA*2=1F7A 1FEC=1FE5 1FF8*2=1F78 1FFA*2=1F7C
    1FFC=1FF3 2126=3C9 212A=6B 212B=E5 2132=214E 2160*16=2170 2183=2184 24B6*26=24D0 2C00*48=2C30
    2C60=2C61 2C62=26B 2C63=1D7D 2C64=27D 2C67*3/2=2C68 2C6D=251 2C6E=271 2C6F=250 2C70=252
    2C72=2C73 2C75=2C76 2C7E*2=23F 2C80*50/2=2C81 2CEB*2/2=2CEC 2CF2=2CF3 A640*23/2=A641
    A680*14/2=A681 A722*7/2=A723 A732*31/2=A733 A779*2/2=A77A A77D=1D79 A77E*5/2=A77F A78B=A78C
    A78D=265 A790*2/2=A791 A796*10/2=A797 A7AA=266 A7AB=25C A7AC=261 A7AD=26C A7AE=26A A7B0=29E
    A7B1=287 A7B2=29D A7B3=AB53 A7B4*8/2=A7B5 A7C4=A794 A7C5=282 A7C6=1D8E A7C7*2/2=A7C8 A7CB=264
    A7CC*8/2=A7CD A7DC=19B A7F5=A7F6 FF21*26=FF41 10400*40=10428 104B0*36=104D8 10570*11=10597
    1057C*15=105A3 1058C*7=105B3 10594*2=105BB 10C80*51=10CC0 10D50*22=10D70 118A0*32=118C0
    16E40*32=16E60 16EA0*25=16EBB 1E900*34=1E922"

end Autoplay.Text.Table
