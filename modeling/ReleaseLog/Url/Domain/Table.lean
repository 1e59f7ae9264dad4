/-!
# Properties of characters

The tables give what the mapping of UTS #46 does with a character and, for every character that it
keeps, the properties that decide where it may stand: whether it is a combining mark and of which
combining class, its bidirectional class and its joining type. Such a table is a row of runs, each
a sign for the property and the number of consecutive characters that have it, from U+0000 on.
One more table lists the characters that compose.
-/

namespace ReleaseLog
namespace Domain

/-- What the mapping does: `V` keeps the character, `M` maps it to others, `I` removes it and `X`
refuses it. ASCII itself is kept here. -/
def statusTable : List String :=
  ["V128X32M1V7M1V1M1V2I1V1M1V2M4V2M3V1M3V1M23V1M7V33M1V1M1V1M1V1M1V1M1V1M1V1M1V1M1V1M1V1M1V1M1V",
    "1M1V1M1V1M1V1M1V1M1V1M1V1M1V1M1V1M1V1M1V1M1V1M1V1M1V1M1V1M3V1M1V2M1V1M1V1M1V1M3V1M1V1M1V1M1V",
    "1M2V1M1V1M1V1M1V1M1V1M1V1M1V1M1V1M1V1M1V1M1V1M1V1M1V1M1V1M1V1M1V1M1V1M1V1M1V1M1V1M1V1M1V1M1V",
    "1M2V1M1V1M1V1M1V1M2V1M1V1M2V1M3V2M4V1M2V1M3V3M2V1M2V1M1V1M1V1M2V1M1V2M1V1M2V1M3V1M1V1M2V3M1V",
    "7M10V1M1V1M1V1M1V1M1V1M1V1M1V1M1V2M1V1M1V1M1V1M1V1M1V1M1V1M1V1M1V1M1V2M4V1M3V1M1V1M1V1M1V1M1",
    "V1M1V1M1V1M1V1M1V1M1V1M1V1M1V1M1V1M1V1M1V1M1V1M1V1M1V1M1V1M1V1M1V1M1V1M1V1M1V1M1V1M1V1M1V1M1",
    "V1M1V1M1V7M2V1M2V2M1V1M4V1M1V1M1V1M1V1M1V97M9V31M6V2M5V91M2V1M3V9I1V32M1V1M1V1M1V1M1V1X2M1V3",
    "M2X4M7X1M1X1M2V1M17X1M9V35M8V1M1V1M1V1M1V1M1V1M1V1M1V1M1V1M1V1M1V1M1V1M1V1M1V1M3V1M2V1M1V1M2",
    "V2M51V48M1V1M1V1M1V1M1V1M1V1M1V1M1V1M1V1M1V1M1V1M1V1M1V1M1V1M1V1M1V1M1V1M1V9M1V1M1V1M1V1M1V1",
    "M1V1M1V1M1V1M1V1M1V1M1V1M1V1M1V1M1V1M1V1M1V1M1V1M1V1M1V1M1V1M1V1M1V1M1V1M1V1M1V1M1V1M1V1M1V1",
    "M2V1M1V1M1V1M1V1M1V1M1V1M1V2M1V1M1V1M1V1M1V1M1V1M1V1M1V1M1V1M1V1M1V1M1V1M1V1M1V1M1V1M1V1M1V1",
    "M1V1M1V1M1V1M1V1M1V1M1V1M1V1M1V1M1V1M1V1M1V1M1V1M1V1M1V1M1V1M1V1M1V1M1V1M1V1M1V1M1V1M1V1M1V1",
    "M1V1M1V1M1V1M1V1M1V1M1V1M1V1M1V1M1V1M39X1M1V46M1V4X1V3X1V56X7V27X4V6X17V22X1V88M4V100X1V48X2",
    "V59X2V101X14V59X2V49X2V15X1V28X2V1X1V11X5V32X7V75X1V117M8V36X1V8X2V2X2V22X1V7X1V1X3V4X2V9X2V",
    "2X2V4X8V1X4M2X1M1V4X2V25X2V3X1V6X4V2X2V22X1V7X1V1M1X1V1M1X1V2X2V1X1V5X4V2X2V3X3V1X7M3V1X1M1X",
    "7V17X10V3X1V9X1V3X1V22X1V7X1V2X1V5X2V10X1V3X1V3X2V1X15V4X2V12X7V7X1V3X1V8X2V2X2V22X1V7X1V2X1",
    "V5X2V9X2V2X2V3X5V5X4M2X1V5X2V18X10V2X1V6X3V3X1V4X3V2X1V1X1V2X3V2X3V3X3V12X4V5X3V3X1V4X2V1X6V",
    "1X14V21X5V13X1V3X1V23X1V16X2V9X1V3X1V4X7V2X1V3X1V2X2V4X2V10X7V22X1V3X1V23X1V10X1V5X2V9X1V3X1",
    "V4X7V2X5V3X1V4X2V10X1V3X12V13X1V3X1V51X1V3X1V6X4V16X2V26X1V3X1V18X3V24X1V9X1V1X2V7X3V1X4V6X1",
    "V1X1V8X6V10X2V3X12V50M1V7X4V29X37V2X1V1X1V5X1V24X1V1X1V12M1V10X2V5X1V1X1V7X1V10X2M2V2X32V12M",
    "1V54M1V4X1V4M1V4M1V4M1V4M1V12M1V3X4V2M1V1M5V7M1V17M1V4X1V4M1V4M1V4M1V4M1V12M1V3X1V15X1V13X37",
    "V160M38X1M1X5M1X2V44M1V98I2V232X1V4X2V7X1V1X1V4X2V41X1V4X2V33X1V4X2V7X1V1X1V4X2V15X1V57X1V4X",
    "2V67X2V32X3V26X6V86X2M6X2V640X1V28X3V89X7V22X9V24X9V20X12V13X1V3X1V2X12V52I2V40X2V10X6V10X6V",
    "11I5V10X6V89X7V43X5V70X10V31X1V12X4V12X4V1X3V42X2V5X11V44X4V26X6V11X3V62X2V65X1V29X2V11X6V10",
    "X6V14X2V60X20V77X1V166X8V60X3V15X3V51M10V1X5M43X2M3V8X8V43X5V44M3V1M11V1M18V1M28V13M1V34M37V",
    "64M1V1M1V1M1V1M1V1M1V1M1V1M1V1M1V1M1V1M1V1M1V1M1V1M1V1M1V1M1V1M1V1M1V1M1V1M1V1M1V1M1V1M1V1M1",
    "V1M1V1M1V1M1V1M1V1M1V1M1V1M1V1M1V1M1V1M1V1M1V1M1V1M1V1M1V1M1V1M1V1M1V1M1V1M1V1M1V1M1V1M1V1M1",
    "V1M1V1M1V1M1V1M1V1M1V1M1V1M1V1M1V1M1V1M1V1M1V1M1V1M1V1M1V1M1V1M1V1M1V1M1V1M1V1M1V1M1V1M1V1M1",
    "V1M1V1M1V1M1V1M1V1M1V1M1V5M2V2M1V1M1V1M1V1M1V1M1V1M1V1M1V1M1V1M1V1M1V1M1V1M1V1M1V1M1V1M1V1M1",
    "V1M1V1M1V1M1V1M1V1M1V1M1V1M1V1M1V1M1V1M1V1M1V1M1V1M1V1M1V1M1V1M1V1M1V1M1V1M1V1M1V1M1V1M1V1M1",
    "V1M1V1M1V1M1V1M1V1M1V1M1V1M1V1M1V1M1V1M1V9M8V6X2M6X2V8M8V8M8V6X2M6X2V8X1M1X1M1X1M1X1M1V8M8V1",
    "M1V1M1V1M1V1M1V1M1V1M1V1M1X2M48V2M3X1V1M14X1V1M9V3M1X2V2M4X1M3V3M1V4M8X2M3X1V1M8X1M11I1V2X2V",
    "1M1V5M1V12X3V1X7M1V3M2V1M2V4M1V1M1V8M3V13M1V7M1I5X5I6M2X2M27V1M16V8M1V28X11V33X15M4V1M3V1M11",
    "V1M2V2M5V2M3V1M1V1M1V1M1V1M4V1M11V1M6V4M5V6M48V3M1V5M1V2X4V156M2V1M2V248M2V255X22V11X21M40X2",
    "0M79V1313M1V103M3V101M1V151X2V138M48V48M1V1M3V2M1V1M1V1M1V1M4V1M1V2M1V6M5V1M1V1M1V1M1V1M1V1M",
    "1V1M1V1M1V1M1V1M1V1M1V1M1V1M1V1M1V1M1V1M1V1M1V1M1V1M1V1M1V1M1V1M1V1M1V1M1V1M1V1M1V1M1V1M1V1M",
    "1V1M1V1M1V1M1V1M1V1M1V1M1V1M1V1M1V1M1V1M1V1M1V1M1V1M1V1M1V1M1V1M1V1M1V1M1V1M1V1M1V1M1V8M1V1M",
    "1V4M1V1X5V45X1V1X5V1X2V56X7M1V1X14V24X9V7X1V7X1V7X1V7X1V7X1V7X1V7X1V7X1V126X34V26X1V4M1V83M1",
    "X12M214X42M1V1M1V51M1V1M3V5X1V86X2V2M2V2M1V95M1X5V43X1M51I1M42X1V2M14V70X10V16M31X1M40V8M47V",
    "1M322X1M4X1M16X1M39V28813X3V55X9V348X20M1V1M1V1M1V1M1V1M1V1M1V1M1V1M1V1M1V1M1V1M1V1M1V1M1V1M",
    "1V1M1V1M1V1M1V1M1V1M1V1M1V1M1V1M1V1M1V19M1V1M1V1M1V1M1V1M1V1M1V1M1V1M1V1M1V1M1V1M1V1M1V1M1V1",
    "M1V1M2V90X8V34M1V1M1V1M1V1M1V1M1V1M1V1M1V3M1V1M1V1M1V1M1V1M1V1M1V1M1V1M1V1M1V1M1V1M1V1M1V1M1",
    "V1M1V1M1V1M1V1M1V1M1V1M1V1M1V1M1V1M1V1M1V1M1V1M1V1M1V1M1V1M1V1M1V1M1V1M1V1M1V8M1V1M1V1M2V1M1",
    "V1M1V1M1V1M1V4M1V1M1V2M1V1M1V3M1V1M1V1M1V1M1V1M1V1M1V1M1V1M1V1M1V1M1V1M5V1M5V1M1V1M1V1M1V1M1",
    "V1M1V1M1V1M1V1M4V1M1V1M2V1M1V1M1V1M1V1M1V1M1V1M1V1M1V1M1V6X14M5V2M2V51X3V10X6V56X8V70X8V12X6",
    "V116X11V30X3V78X1V11X4V33X1V55X9V14X2V10X2V103X24V28X10V6X2V6X2V6X9V7X1V7X1V44M4V9M1V6M80V46",
    "X2V10X6V11172X12V23X4V49X8452M270V2M1V1M1V2M10V1M1V1M1V2M2V3M68X2M106X38M7X12M5X5M1V1M24X1M5",
    "X1M1X1M2X1M2X1M108V33M363V18M64V2M54V8X32M13V3I16M2X1M6X7V16X1M20V2M11X2M19X1M4X4M3V1M1X1M13",
    "5X2I1X1M159I1M30X3M6X2M6X2M6X2M3X3M7X1M7X17V12X1V26X1V19X1V2X1V15X2V14X34V123X5V3X4V45X3V88X",
    "1V13X3V1X47V46X130V29X3V49X15V28X4V36X9V30X5V43X5V30X1V37X4V14X42M40V118X2V10X6M36X4V36X4V40",
    "X8V52X11V1M11X1M15X1M7X1M2X1V11X1V15X1V7X1V2X3V52X12V311X9V22X10V8X24V1M5X1M42X1M9V5X64V6X2V",
    "1X1V44X1V2X3V1X2V23X1V72X8V9X48V19X1V2X5V33X3V27X5V27X38V56X4V20X2V50X1V2X5V8X1V3X1V29X2V3X4",
    "V10X7V9X7V64X32V39X4V12X9V54X3V29X2V27X5V26X7V4X12V7X80V73X55M51X13V51X7V46X8V10X6V16M22X3V2",
    "9X8V2X208V31X1V42X1V3X2V2X16V6X1V3X4V31X11V46X8V42X22V26X38V28X20V23X9V78X4V36X9V62X1V5X13V2",
    "5X7V10X6V53X1V18X8V39X9V96X1V20X11V18X1V47X62V7X1V1X1V4X1V15X1V11X6V59X5V10X6V4X1V8X2V2X2V22",
    "X1V7X1V2X1V5X1V10X2V2X2V3X2V1X6V1X5V7X2V7X3V5X11V10X1V1X2V1X1V38X1V10X1V1X2V1X1V4X1V10X1V2X8",
    "V2X29V92X1V5X30V72X8V10X166V54X2V38X34V69X11V10X6V13X19V58X6V10X6V20X28V27X2V15X4V23X185V60X",
    "100M32V51X12V8X2V1X2V8X1V2X1V30X1V2X2V12X9V10X70V8X2V46X2V11X27V72X8V83X13V73X7V16X80V8X88V3",
    "4X14V10X6V9X1V45X1V14X10V29X3V32X2V22X1V14X73V7X1V2X1V44X3V1X1V2X1V9X8V10X6V6X1V2X1V37X1V2X1",
    "V6X7V10X6V44X4V10X6V2X238V25X7V17X1V41X3V29X85V1X15V50X13V923X102V111X1V5X11V196X12V311X2313",
    "V99X13V1072X16V22X10V3995X5V583X6841V58X1734V569X7V31X1V10X4V81X1V10X6V30X2V6X10V70X10V10X1V",
    "7X1V21X5V19X432V58X6V42X150M32V59X5M25X2V25X44V75X4V57X7V17X64V5X11V7X9V7382X41V32X97V115X13",
    "V914X14V51X7709V4X1V7X1V2X1V297X9V1X29V3X2V1X14V4X8V396X2308V107X5V13X3V9X7V10X2V4I4X3932V21",
    "4M36V3X3V436X6V23X15V17X15V46X2V23X9V116X60V246X10V94M7V14I8V64M6V133X10V64X48V20X12V20X12V8",
    "7X9V25X135M85X1M71X1M2X2M1X2M2X2M4X1M12X1M1X1M7X1M65X1M4X2M8X1M7X1M28X1M4X1M5X1M1X3M7X1M340X",
    "2M292X2M50V652X15V5X1V15X1104V31X6V27X192V7X1V17X2V7X1V2X1V5X5M62X33V1X112V45X3V14X2V10X4V2X",
    "320V31X17V58X5V1X464V42X214V43X4V1X192V31X1V22X8V2X224V7X1V4X1V2X1V15X1V197X2V16X41M34V42X4V",
    "10X4V2X785V68X76V61X194M4X1M27X1M2X1M1X2M1X1M10X1M4X1M1X1M1X6M1X4M1X1M1X1M1X1M3X1M2X1M1X2M1X",
    "1M1X1M1X1M1X1M1X1M2X1M1X2M4X1M7X1M4X1M4X1M1X1M10X1M17X5M3X1M5X1M17X52V2X270V44X4V100X12V15X2",
    "V15X1V15X1V37X11M10V5M31V1M32V26M3V35M1V30X55V26M3X13M44X4M9X7M2X14V6X154V986X2V17X3V13X3V21",
    "8X6V12X4V1X15V12X4V56X8V10X6V40X8V30X2V12X4V2X14V9X39V344X8V14X2V13X3V13X1V57X1V1X3V18X1V13X",
    "3V12X5V147X1V92M10V1X1029V42720X32V4382X2V5774X2V7473X15V622X2466M542X1506V4939X5V8490X39814",
    "V11328X656576I240X196112"]

/-- Combining marks: `M`. All other characters have `N`. -/
def markTable : List String :=
  ["N768M113N274M8N262M45N1M1N1M2N1M2N1M9N64M11N48M21N16M1N101M8N1M6N2M2N1M4N35M1N30M29N89M11N58",
    "M9N9M1N24M4N1M9N1M3N1M7N41M5N57M9N42M58N54M3N1M18N1M15N2M2N29M4N55M1N1M16N9M9N2M4N24M7N55M32",
    "N20M2N3M1N11M4N55M1N1M18N18M4N20M11N55M1N1M33N3M4N28M1N59M18N7M15N26M5N55M1N1M26N10M4N27M3N5",
    "6M1N1M30N6M4N13M17N55M2N1M16N9M1N10M4N27M4N69M28N12M2N61M1N2M11N8M8N98M1N2M9N11M8N72M2N27M1N",
    "1M1N1M1N4M2N49M20N1M2N5M49N8M1N100M20N23M4N4M3N1M3N2M7N3M4N13M12N1M1N10M4N703M3N946M13N19M3N",
    "29M14N18M14N54M30N9M3N165M2N34M1N118M32N215M7N55M43N48M85N47M17N38M9N12M3N30M13N56M22N40M23N",
    "149M3N1M21N4M1N6M1N2M3N198M65N719M52N3051M4N140M1N96M32N554M6N105M4N30162M4N1M10N32M2N80M2N2",
    "72M1N3M1N4M1N23M5N4M4N80M2N50M26N18M18N13M1N38M8N25M24N33M4N47M14N36M1N67M23N3M1N8M4N43M3N50",
    "M1N1M3N2M2N5M2N1M1N41M5N5M12N226M8N1M4N20270M148N622M37N952M131N96M1N149M10N1665M15N40M8N165",
    "M6N569M12N57M5N317M2N30M5N42M6N70M11N49M4N122M3N53M15N41M1N2M2N10M4N45M11N7M14N48M3N36M15N15",
    "M2N44M1N12M3N48M14N8M4N1M2N92M12N6M1N2M63N95M17N16M5N54M2N1M18N7M6N5M30N56M25N1M1N14M31N53M1",
    "8N23M1N81M20N235M18N27M36N48M17N106M13N101M19N252M15N245M15N1M1N1M2N141M16N3M28N1M10N40M7N1M",
    "4N8M9N1M11N46M16N198M96N111M17N82M110N49M21N1M9N58M14N88M240N19M4N9M2N1M1N48M15N23M86N5264M1",
    "N6M25N11454M18N2496M5N59M7N1048M1N1M66N81M14N19627M2N4705M80N471M2N60M5N3M22N2M7N30M4N148M3N",
    "1979M55N4M50N8M1N14M1N22M1125N256M256N48M7N375M18N44M4N508M4N254M2N243M1N2M1N7M2N5M9N466M82N",
    "34M7N988853"]

/-- Combining classes, in the order of their signs. `*` is class 0, and `C` that of the viramas. -/
def combiningTable : List String :=
  ["*768w21x1r4x1p1r5n2r4n2r11+5r4w10r3w3r3w3r4w1x1r2w1y1z2y1z2y1w14*274w5*265r1w4r1w3s1r1w6r6w2",
    "r1w2s1v1w1D1E1F1G1H1I1J1K1L1M2N1O1P1*1Q1*1R1S1*1w1r1*1L1r8*64w8X1Y1Z1*48U1V1W1X1Y1Z1a1b1w2r2",
    "w5r1w2r1*16c1*101w8*1w4r1w1*2w2*1r1w2r1*35d1*30w1r1w2r1w2r3w1r2w1r1w3r1w1r1w1r1w1r1w4*158w7r",
    "1w1*9r1*24w4*1w9*1w3*1w7*41r5*57w2r3w4*42w5r5w15r1w2r1w2r1w3r3U1V1W1w3r1w2r2w5*60A1*16C1*3w1",
    "r1w2*103A1*16C1*48w3*59A2*15C4*107A1*16C3*108A1*16C6*122C3*108A1*16C8e1f2*100A1*16C8*102C2*1",
    "6C1*124C5*105g2C5*9h4*108i2C1*13j4*76r2*27r1*1r1*1p1*55k1l2m6l4*2l2w2C1*1w2*62r1*112A1*1C2*8",
    "2r1*719w3*948C11*21C1*157C1*10w3*201v1*143s1w1r5*215w1r1*71C1*20w10r1*48w5r6w2r1*1r2w2r2w5r1",
    "w18r1w8r1w4z21*52A1*15C1*38w1r1w7*54C2*58A1*11C10*59A4*149w3*1+1r5w2r4w1*1+7*4r1*6w1*3w2*198",
    "w2r1w7r1w2z1o1r1n1w37x1v2r1q1w1y1r1w1r2*719w2+2w4+3w2*4w1*3+2w1r1w1+2r4w20*3051w4*140C1*96w3",
    "2*554q1v1x1s1t2*105B4*30162w1*4w10*32w2*80w2*276C1*37C4*148C1*27w18*57r3*37C12*84A1*12C1*239",
    "w1*1w2r1*2w2*5w2*1w1*52C11*236C3*20270T148*622w7r7w23*952r131*96r1*149w10*1677r1*1w1*40w1+1r",
    "5C1*165w1r5*569w12*57w5*317w2*30w5*42r2*1r3*70r2w3r1w1r4*49w1r1w1r1*192C1*41C1*14C1*57C1A1*6",
    "9w3*48C3*61A1*76C1*9A1*106C1A1*178A1C6*75A2*16C3*22w26*78C3*113C1*3A1*23w1*99C1A1*251C1A1*12",
    "6C1*118C1A1*115C5*265C1A1*258C2*4A1*156C1*83C1*18C9*73C1*421C1*258A1*1C2*81C1*88w240*97C2*16",
    "876C1*2496+5*59w7*1209-2*19628+1*5318p2+3*3u1p13r8*2w5r2*30w4*148w3*3515w256*48w7*375w18*44w",
    "4*508x2r1w1*254w1r1*243w1*2w1*7w2*5w9*466r82*34w6A1*988853"]

/-- The characters that compose with another one in front of them, each followed by all of those and
what the two become. -/
def compositeTable : List String :=
  ["300 61 E0 65 E8 69 EC 6E 1F9 6F F2 75 F9 77 1E81 79 1EF3 E2 1EA7 EA 1EC1 F4 1ED3 FC 1DC 10",
    "3 1EB1 113 1E15 14D 1E51 1A1 1EDD 1B0 1EEB 3B1 1F70 3B5 1F72 3B7 1F74 3B9 1F76 3BF 1F78 3C",
    "5 1F7A 3C9 1F7C 3CA 1FD2 3CB 1FE2 435 450 438 45D 1F00 1F02 1F01 1F03 1F10 1F12 1F11 1F13 1F",
    "20 1F22 1F21 1F23 1F30 1F32 1F31 1F33 1F40 1F42 1F41 1F43 1F50 1F52 1F51 1F53 1F60 1F62 1F6",
    "1 1F63,301 61 E1 63 107 65 E9 67 1F5 69 ED 6B 1E31 6C 13A 6D 1E3F 6E 144 6F F3 70 1E55 72 15",
    "5 73 15B 75 FA 77 1E83 79 FD 7A 17A E2 1EA5 E5 1FB E6 1FD E7 1E09 EA 1EBF EF 1E2F F4 1ED1 F",
    "5 1E4D F8 1FF FC 1D8 103 1EAF 113 1E17 14D 1E53 169 1E79 1A1 1EDB 1B0 1EE9 3B1 3AC 3B5 3AD 3",
    "B7 3AE 3B9 3AF 3BF 3CC 3C5 3CD 3C9 3CE 3CA 390 3CB 3B0 433 453 43A 45C 1F00 1F04 1F01 1F05 1",
    "F10 1F14 1F11 1F15 1F20 1F24 1F21 1F25 1F30 1F34 1F31 1F35 1F40 1F44 1F41 1F45 1F50 1F54 1F5",
    "1 1F55 1F60 1F64 1F61 1F65,302 61 E2 63 109 65 EA 67 11D 68 125 69 EE 6A 135 6F F4 73 15D 7",
    "5 FB 77 175 79 177 7A 1E91 1EA1 1EAD 1EB9 1EC7 1ECD 1ED9,303 61 E3 65 1EBD 69 129 6E F1 6F F",
    "5 75 169 76 1E7D 79 1EF9 E2 1EAB EA 1EC5 F4 1ED7 103 1EB5 1A1 1EE1 1B0 1EEF,304 61 101 65 11",
    "3 67 1E21 69 12B 6F 14D 75 16B 79 233 E4 1DF E6 1E3 F5 22D F6 22B FC 1D6 1EB 1ED 227 1E1 22",
    "F 231 3B1 1FB1 3B9 1FD1 3C5 1FE1 438 4E3 443 4EF 1E37 1E39 1E5B 1E5D,306 61 103 65 115 67 11",
    "F 69 12D 6F 14F 75 16D 229 1E1D 3B1 1FB0 3B9 1FD0 3C5 1FE0 430 4D1 435 4D7 436 4C2 438 439 4",
    "43 45E 1EA1 1EB7,307 61 227 62 1E03 63 10B 64 1E0B 65 117 66 1E1F 67 121 68 1E23 6D 1E41 6",
    "E 1E45 6F 22F 70 1E57 72 1E59 73 1E61 74 1E6B 77 1E87 78 1E8B 79 1E8F 7A 17C 15B 1E65 161 1E",
    "67 1E63 1E69 105D2 105C9 105DA 105E4,308 61 E4 65 EB 68 1E27 69 EF 6F F6 74 1E97 75 FC 77 1E",
    "85 78 1E8D 79 FF F5 1E4F 16B 1E7B 3B9 3CA 3C5 3CB 430 4D3 435 451 436 4DD 437 4DF 438 4E5 43",
    "E 4E7 443 4F1 447 4F5 44B 4F9 44D 4ED 456 457 4D9 4DB 4E9 4EB,309 61 1EA3 65 1EBB 69 1EC9 6",
    "F 1ECF 75 1EE7 79 1EF7 E2 1EA9 EA 1EC3 F4 1ED5 103 1EB3 1A1 1EDF 1B0 1EED,30A 61 E5 75 16F 7",
    "7 1E98 79 1E99,30B 6F 151 75 171 443 4F3,30C 61 1CE 63 10D 64 10F 65 11B 67 1E7 68 21F 69 1D",
    "0 6A 1F0 6B 1E9 6C 13E 6E 148 6F 1D2 72 159 73 161 74 165 75 1D4 7A 17E FC 1DA 292 1EF,30F 6",
    "1 201 65 205 69 209 6F 20D 72 211 75 215 475 477,311 61 203 65 207 69 20B 6F 20F 72 213 75 2",
    "17,313 3B1 1F00 3B5 1F10 3B7 1F20 3B9 1F30 3BF 1F40 3C1 1FE4 3C5 1F50 3C9 1F60,314 3B1 1F0",
    "1 3B5 1F11 3B7 1F21 3B9 1F31 3BF 1F41 3C1 1FE5 3C5 1F51 3C9 1F61,31B 6F 1A1 75 1B0,323 61 1E",
    "A1 62 1E05 64 1E0D 65 1EB9 68 1E25 69 1ECB 6B 1E33 6C 1E37 6D 1E43 6E 1E47 6F 1ECD 72 1E5B 7",
    "3 1E63 74 1E6D 75 1EE5 76 1E7F 77 1E89 79 1EF5 7A 1E93 1A1 1EE3 1B0 1EF1,324 75 1E73,325 6",
    "1 1E01,326 73 219 74 21B,327 63 E7 64 1E11 65 229 67 123 68 1E29 6B 137 6C 13C 6E 146 72 15",
    "7 73 15F 74 163,328 61 105 65 119 69 12F 6F 1EB 75 173,32D 64 1E13 65 1E19 6C 1E3D 6E 1E4B 7",
    "4 1E71 75 1E77,32E 68 1E2B,330 65 1E1B 69 1E2D 75 1E75,331 62 1E07 64 1E0F 68 1E96 6B 1E35 6",
    "C 1E3B 6E 1E49 72 1E5F 74 1E6F 7A 1E95,338 3C 226E 3D 2260 3E 226F 2190 219A 2192 219B 219",
    "4 21AE 21D0 21CD 21D2 21CF 21D4 21CE 2203 2204 2208 2209 220B 220C 2223 2224 2225 2226 223",
    "C 2241 2243 2244 2245 2247 2248 2249 224D 226D 2261 2262 2264 2270 2265 2271 2272 2274 227",
    "3 2275 2276 2278 2277 2279 227A 2280 227B 2281 227C 22E0 227D 22E1 2282 2284 2283 2285 228",
    "6 2288 2287 2289 2291 22E2 2292 22E3 22A2 22AC 22A8 22AD 22A9 22AE 22AB 22AF 22B2 22EA 22B",
    "3 22EB 22B4 22EC 22B5 22ED,342 3B1 1FB6 3B7 1FC6 3B9 1FD6 3C5 1FE6 3C9 1FF6 3CA 1FD7 3CB 1FE",
    "7 1F00 1F06 1F01 1F07 1F20 1F26 1F21 1F27 1F30 1F36 1F31 1F37 1F50 1F56 1F51 1F57 1F60 1F6",
    "6 1F61 1F67,653 627 622,654 627 623 648 624 64A 626 6C1 6C2 6D2 6D3 6D5 6C0,655 627 625,93",
    "C 928 929 930 931 933 934,9BE 9C7 9CB,9D7 9C7 9CC,B3E B47 B4B,B56 B47 B48,B57 B47 B4C,BBE BC",
    "6 BCA BC7 BCB,BD7 B92 B94 BC6 BCC,C56 C46 C48,CC2 CC6 CCA,CD5 CBF CC0 CC6 CC7 CCA CCB,CD6 CC",
    "6 CC8,D3E D46 D4A D47 D4B,D57 D46 D4C,DCA DD9 DDA DDC DDD,DCF DD9 DDC,DDF DD9 DDE,102E 102",
    "5 1026,1B35 1B05 1B06 1B07 1B08 1B09 1B0A 1B0B 1B0C 1B0D 1B0E 1B11 1B12 1B3A 1B3B 1B3C 1B3",
    "D 1B3E 1B40 1B3F 1B41 1B42 1B43,3099 3046 3094 304B 304C 304D 304E 304F 3050 3051 3052 305",
    "3 3054 3055 3056 3057 3058 3059 305A 305B 305C 305D 305E 305F 3060 3061 3062 3064 3065 306",
    "6 3067 3068 3069 306F 3070 3072 3073 3075 3076 3078 3079 307B 307C 309D 309E 30A6 30F4 30A",
    "B 30AC 30AD 30AE 30AF 30B0 30B1 30B2 30B3 30B4 30B5 30B6 30B7 30B8 30B9 30BA 30BB 30BC 30B",
    "D 30BE 30BF 30C0 30C1 30C2 30C4 30C5 30C6 30C7 30C8 30C9 30CF 30D0 30D2 30D3 30D5 30D6 30D",
    "8 30D9 30DB 30DC 30EF 30F7 30F0 30F8 30F1 30F9 30F2 30FA 30FD 30FE,309A 306F 3071 3072 307",
    "4 3075 3077 3078 307A 307B 307D 30CF 30D1 30D2 30D4 30D5 30D7 30D8 30DA 30DB 30DD,110BA 1109",
    "9 1109A 1109B 1109C 110A5 110AB,11127 11131 1112E 11132 1112F,1133E 11347 1134B,11357 1134",
    "7 1134C,113B8 113C2 113C7,113BB 11384 11385,113C2 1138B 1138E 113C2 113C5,113C9 11382 1138",
    "3 11390 11391 113C2 113C8,114B0 114B9 114BC,114BA 114B9 114BB,114BD 114B9 114BE,115AF 115B",
    "8 115BA 115B9 115BB,11930 11935 11938,1611E 1611E 16121,1611F 1611E 16123 16121 16126 1612",
    "2 16127 16129 16124,16120 1611E 16125 16121 16128,16129 1611E 16122,16D67 16D63 16D69 16D6",
    "7 16D68 16D69 16D6A"]

/-- Bidirectional classes: `L` left to right, `R` right to left (Hebrew and Arabic letters alike),
`A` Arabic numbers, `E` European numbers, `N` neutral characters, `M` nonspacing marks, and `X`
what no bidirectional name may hold. -/
def directionTable : List String :=
  ["N9X5N14X5N15E10N7L26N6L26N100L24N1L449N2L7N14L2N28L1N17M113L4N2L127N2L139M8L255N1L2N4M45R1M1",
    "R1M2R1M2R1M9R54N2R1N2R1N1R1N2M11R48M21A10N1A2R3M1R101M8N1M6R2M2N1M4R2E10R23M1R30M29R89M11R58",
    "M9R2N4R3M1R24M4R1M9R1M3R1M7R41M5R57M9R42M57L55M1L1M1L4M8L4M1L3M15L2M2L29M1L58M1L4M6L6M1L20M4",
    "L12N2L7N1L2M5L57M2L3M27L20M2L3M1L11M2L57M1L4M8L4M3L18M4L11N8L1M8L58M1L2M1L1M6L6M10L11M4L28M1",
    "L61M1L12M3L35N13M1L3M1L55M1L1M3L5M18L10M4L18N7L2M1L58M1L15M9L13M4L26M2L57M2L4M5L7M1L20M4L27M",
    "1L72M5L3M6L89M1L2M11N1L7M8L98M1L2M9L11M8L72M2L27M1L1M1L1M1N4L51M14L1M5L1M2L5M49L8M1L102M4L1M",
    "6L1M2L2M2L25M2L4M3L16M4L13M1L2M2L6M1L15M1L703M3L48N16L96N1L666N5L114M3L29M2L30M14L18M14L55M7",
    "L8M1L2M11L7N1L1M3L16N32L117M2L34M1L118M3L4M2L9M1L6M7N6L152N34L23M2L2M3L56M1L1M9L1M1L2M8L6M13",
    "L48M84L48M1L1M4L49M9L12M2L32M4L2M2L1M3L56M1L1M2L3M1L1M3L58M8L2M5L149M3L1M13L1M7L4M1L6M1L3M2L",
    "198M65L523N196M52N74L60N428L69N26L1N790L1N339L256N816L181N7L3M4L6N7L127M1L96M32N517L3N25L9M4",
    "L2N1L6N4L2N4L88M4L3N1L90N1L196N48L7120N64L22160N64L317N3L95M4N1M10N3L29M2L80M2L14N35L101N1L1",
    "21M1L3M1L4M1L25M2L1N4M4L8N8L52N12L68M10L18M18L13M1L38M8L25M11L46M3L48M1L2M4L2M2L39M1L67M6L2M",
    "2L2M11L3M1L8M1L47M1L51M1L1M3L2M2L5M2L1M1L42M2L8M11L105N2L121M1L2M1L4M3L20270M148R17N605M37N4",
    "6R397L257N1L62N77L3N64L45M131L96M1E31L118M10L1152R287N1R225M15R40M8R165M6R78N7R484M12A26R31M",
    "5N1R241A32R43M2R30M5N9R33M6R70M11R49M4R122L1M1L54M15L11N20L10M1L2M2L10M3L49M4L2M2L7M14L48M3L",
    "36M5L1M9L61M1L12M2L52M9L10M4L2M1L95M3L2M1L1M2L6M1L2M63L95M1L3M13L16M2L57M2L3M1L37M26L59M7L12",
    "M1L1M1L1M1L14M31L56M8L2M3L1M1L23M1L84M6L1M1L4M2L1M2L238M6L4M2L1M2L27M36L51M8L2M1L1M2L31N32L4",
    "3M1L1M1L2M6L1M1L101M1L1M1L2M4L1M9L255M9L1M2L256M2L1M1L4M1L144M8L4M1L32M6L2M2L40M6L2M4L8M9L1M",
    "6L2M3L46M13L1M2L198M1L1M3L1M1L201M14L84M23L1M7L1M2L1M75L49M21L1M9L64M3L2M1L1M1L88M240L19M2L1",
    "1M2L52M8L2M1L1M1L23M86L37N42L5185M1L6M25L11454M12L3M3L2496M5L59M7L1048M1L63M4L79N1L1M12L8624",
    "N7760L3245M2L3937N768M80L471M2L62M3L17M8L2M7L30M4L59N89M3N123L64N96L1696M55L4M50L8M1L14M1L22",
    "M1125L256M256L48M7L375M18L44M4L15N465L28M4L254M2L243M1L2M1L7M2L5M9L258R208M82R34M7R1445N608L",
    "29N3L61N57L122N3488L983040"]

/-- Joining types: `D` joins on both sides, `L` and `R` on one, `T` is transparent, `C` makes its
neighbours join and `U` does not join. -/
def joiningTable : List String :=
  ["U768T113U274T8U262T45U1T1U1T2U1T2U1T9U64T11U5D1U1R4D1R1D1R1D5R4D13C1D7R1D2T21U14D2T1R3U5D15R",
    "18D38R1D2R9D1R1D1R1D2R2U1R1T8U1T6U2T2U1T4R2U10D3U2D1U16R1T1D3R5D4R1D9R1D1R1D1R1D2R1T29R1D11R",
    "3D15R2D4R1D1R2D3R2D6U38T11U25D33T9U6C3T1U24T4U1T9U1T3U1T7U16R1D5R2D1R1D10R1D1R3T5U2D1U1D4U1R",
    "1D1R26C3D1U2D5R1D8T9D10R3U1R1D2R2D6R1D15U1T57U55T1U1T1U4T8U4T1U3T15U2T2U29T1U58T1U4T6U6T1U20",
    "T4U24T5U57T2U3T27U20T2U3T1U11T2U57T1U4T8U4T3U18T4U20T8U58T1U2T1U1T6U6T10U11T4U28T1U61T1U12T3",
    "U48T1U3T1U55T1U1T3U5T18U10T4U27T1U58T1U2T1U6T1U5T9U13T4U26T2U57T2U4T5U7T1U20T4U27T1U72T5U3T6",
    "U89T1U2T11U8T8U98T1U2T9U11T8U72T2U27T1U1T1U1T1U55T14U1T5U1T2U5T49U8T1U102T4U1T6U1T2U2T2U25T2",
    "U4T3U16T4U13T1U2T2U6T1U15T1U703T3U946T3U29T2U30T14U18T14U55T7U8T1U2T11U9T3U39D1U2C6U16D96U5T",
    "2D34T1D6U112T3U4T2U9T1U6T7U215T2U2T3U56T1U1T9U1T1U2T8U6T13U48T84U48T1U1T5U1T1U5T1U40T9U12T2U",
    "32T4U2T2U1T3U56T1U1T2U3T1U1T3U58T8U2T5U149T3U1T13U1T7U4T1U6T1U3T2U198T65U524C3U192T52U3051T4",
    "U140T1U96T32U554T4U107T4U30162T4U1T10U32T2U80T2U272T1U3T1U4T1U25T2U5T4U16D50L1U81T10U18T18U1",
    "3T1U38T8U25T11U46T3U48T1U2T4U2T2U39T1U67T6U2T2U2T11U3T1U8T1U47T1U51T1U1T3U2T2U5T2U1T1U42T2U8",
    "T11U228T1U2T1U4T3U20270T148U622T37U952T131U96T1U149T10U1665T15U40T8U128D5R1U1R1U1R2U2L1R5D4L",
    "1D5R1D3R1U2R1T6D4R1U144D1R1D1R3D3R1D2R1D1R2D1R8U16R4D2U337L1D33R1D1T12U57T5U317T2U21R1D2U1D3",
    "U2T5U42T6U48D3R1D17U1T11D3R1U27D4R2D12T4U42D1U1D2R3U1D1R2D2R1D2U1D1R2D1U4R1D1L21U33T1U54T15U",
    "41T1U2T2U10T3U49T4U2T2U7T14U48T3U36T5U1T9U61T1U12T2U52T9U10T4U2T1U95T3U2T1U1T2U6T1U2T63U95T1",
    "U3T13U16T2U57T2U3T1U37T26U59T7U12T1U1T1U1T1U14T31U56T8U2T3U1T1U23T1U84T6U1T1U4T2U1T2U238T6U4",
    "T2U1T2U27T36U51T8U2T1U1T2U106T1U1T1U2T6U1T1U101T1U1T1U2T4U1T9U255T9U1T2U256T2U1T1U4T1U144T8U",
    "4T1U32T10U40T6U2T4U8T9U1T6U2T3U46T13U1T2U198T1U1T3U1T1U201T14U1T1U82T23U1T7U1T2U1T75U49T21U1",
    "T9U64T3U2T1U1T1U88T240U19T2U11T2U52T8U2T1U1T1U23T86U5264T1U6T25U11454T12U3T3U2496T5U59T7U104",
    "8T1U63T4U81T12U19629T2U4705T80U471T2U62T3U17T8U2T7U30T4U148T3U1979T55U4T50U8T1U14T1U22T1125U",
    "256T256U48T7U375T18U44T4U508T4U254T2U243T1U2T1U7T2U5T9U466T82D34T12U988848"]

end Domain
end ReleaseLog
